/-
# SqlDriver.Toml.Document -- values, keys, headers and the whole document

A document is a row of comments, headers and lines `key = value`.  `Builder` holds
the tables that are finished and the one that lines are added to; `document` reads a
text and answers its root table or the first issue.
-/
import SqlDriver.Toml.Number

namespace SqlDriver.Toml

set_option autoImplicit false

/-- How deep values and keys may be nested. -/
def depthLimit : Nat := 80

def tooDeep : Issue :=
  Issue.because "recursion limit exceeded"

/-! ## Keys -/

def simpleKey (s : List Char) : Except Failure (String × List Char) :=
  match s with
  | '"' :: r => do
      let (t, rest) ← basicBody (r.length + 1) r
      .ok (String.ofList t, rest)
  | '\'' :: r => do
      let (t, rest) ← literalBody r
      .ok (String.ofList t, rest)
  | s =>
      let bare := s.takeWhile isBareKeyChar
      if bare.isEmpty then Reading.missing
      else .ok (String.ofList bare, s.dropWhile isBareKeyChar)

def spacedKey (s : List Char) : Except Failure (String × List Char) := do
  let (key, rest) ← simpleKey (skipBlanks s)
  .ok (key, skipBlanks rest)

/-- The parts behind the first: each follows a point.  A point with no part behind it
is left. -/
def keyParts : Nat → List Char → Except Failure (List String × List Char)
  | fuel + 1, '.' :: r =>
      match spacedKey r with
      | .error f => if f.final then .error f else .ok ([], '.' :: r)
      | .ok (part, rest) => do
          let (parts, rest) ← keyParts fuel rest
          .ok (part :: parts, rest)
  | _, s => .ok ([], s)

/-- A key: its parts but the last, and the last. -/
def key (s : List Char) : Except Failure ((List String × String) × List Char) := do
  let (parts, rest) ← Reading.named "key" do
    let (part, rest) ← spacedKey s
    let (parts, rest) ← keyParts rest.length rest
    .ok (part :: parts, rest)
  if depthLimit ≤ parts.length then .error ⟨tooDeep, false⟩
  else .ok ((parts.dropLast, parts.getLastD ""), rest)

/-- The sign between a key and its value. -/
def equals (s : List Char) : Except Failure (Unit × List Char) :=
  Reading.commit (Reading.expecting "`=`" (Reading.expecting "`.`" (Reading.char '=' s)))

/-! ## Blanks, comments and line ends -/

/-- What follows the comment at the front of a text, if one stands there. -/
def skipComment (s : List Char) : List Char :=
  match s with
  | '#' :: r => r.dropWhile isPlain
  | s => s

def lineEnd (s : List Char) : Except Failure (Unit × List Char) :=
  match s with
  | [] => .ok ((), [])
  | s =>
      match newline? s with
      | some r => .ok ((), r)
      | none => Reading.missing

/-- The blanks, the comment and the line end behind a value or header. -/
def lineTrailing (s : List Char) : Except Failure (Unit × List Char) :=
  Reading.commit
    (Reading.expecting "`#`" (Reading.expecting "newline" (lineEnd (skipComment (skipBlanks s)))))

/-- What follows the blanks, comments and line ends between the items of an array. -/
def skipBetween : Nat → List Char → List Char
  | 0, s => s
  | fuel + 1, s =>
      let s := skipBlanks s
      match newline? (skipComment s) with
      | some r => skipBetween fuel r
      | none => s

/-! ## Values -/

/-- The items of an array behind its opening bracket, up to the closing one. -/
def arrayItems (value : List Char → Except Failure (Node × List Char)) :
    Nat → List Char → Except Failure (List Node × List Char)
  | 0, _ => Reading.missing
  | fuel + 1, s =>
      let between (s : List Char) : List Char := skipBetween (s.length + 1) s
      let close (s : List Char) : Except Failure (List Node × List Char) :=
        match between s with
        | ']' :: r => .ok ([], r)
        | _ => Reading.refuse { construct := some "array", expected := ["`]`"] }
      match value (between s) with
      | .error f => if f.final then .error f else close s
      | .ok (item, rest) =>
          match between rest with
          | ',' :: rest => do
              let (items, rest) ← arrayItems value fuel rest
              .ok (item :: items, rest)
          | rest => do
              let (_, rest) ← close rest
              .ok ([item], rest)

def inlinePair (value : List Char → Except Failure (Node × List Char)) (s : List Char) :
    Except Failure ((List String × String × Node) × List Char) := do
  let ((path, last), r) ← key s
  let (_, r) ← equals r
  let (v, r) ← Reading.commit (value (skipBlanks r))
  .ok ((path, last, v), skipBlanks r)

/-- The pairs of an inline table behind its opening brace, up to the closing one. -/
def inlinePairs (value : List Char → Except Failure (Node × List Char)) :
    Nat → List Char → Except Failure ((List (List String × String × Node)) × List Char)
  | 0, _ => Reading.missing
  | fuel + 1, s =>
      match inlinePair value s with
      | .error f => if f.final then .error f else .ok ([], s)
      | .ok (pair, ',' :: rest) =>
          match inlinePairs value fuel rest with
          | .error f => .error f
          | .ok ([], _) => .ok ([pair], ',' :: rest)
          | .ok (pairs, rest) => .ok (pair :: pairs, rest)
      | .ok (pair, rest) => .ok ([pair], rest)

def inlineTable (pairs : List (List String × String × Node)) : Except Issue Node :=
  pairs.foldlM (fun table (path, last, v) => table.insert none path last v) (.inline false false [])

/-- A value that could not be read is reported as a text without quotes. -/
def asUnquoted (r : Except Failure (Node × List Char)) : Except Failure (Node × List Char) :=
  Reading.expecting "`'`" (Reading.expecting "`\"`" (Reading.named "string" r))

/-- A value with at most so many levels of brackets and braces inside each other. -/
def value : Nat → List Char → Except Failure (Node × List Char)
  | depth, s =>
    match s with
    | [] => Reading.missing
    | c :: r =>
        if c = '"' || c = '\'' then do
          let (t, rest) ← quotedText s
          .ok (.string (String.ofList t), rest)
        else if c = '[' then
          match depth with
          | 0 => Reading.refuse tooDeep
          | depth + 1 => do
              let (items, rest) ← arrayItems (value depth) (r.length + 1) r
              .ok (.array items, rest)
        else if c = '\x7b' then
          match depth with
          | 0 => Reading.refuse tooDeep
          | depth + 1 => do
              let (pairs, rest) ← inlinePairs (value depth) (r.length + 1) r
              match inlineTable pairs with
              | .error issue => Reading.refuse issue
              | .ok table =>
                  match skipBlanks rest with
                  | '\x7d' :: rest => .ok (table, rest)
                  | _ =>
                      Reading.refuse { construct := some "inline table", expected := ["`\x7d`"] }
        else if c = '+' || c = '-' || Decimal.isDigit c then number s
        else if c = '_' then Reading.expecting "leading digit" (integer s)
        else if c = '.' then Reading.expecting "leading digit" (float s)
        else if c = 't' then asUnquoted (Reading.commit (word "true" (.boolean true) s))
        else if c = 'f' then asUnquoted (Reading.commit (word "false" (.boolean false) s))
        else if c = 'i' then asUnquoted (word "inf" (.float (Decimal.Binary64.infinity false)) s)
        else if c = 'n' then asUnquoted (word "nan" (.float Decimal.Binary64.notANumber) s)
        else asUnquoted Reading.missing

/-! ## The document -/

/-- The tables read so far. -/
structure Builder where
  /-- The finished tables. -/
  root : Node := .root
  /-- The table that lines are added to, with its path. -/
  current : Node := .root
  path : List String := []
  /-- The current table is one of several with the same header. -/
  repeated : Bool := false

namespace Builder

def addLine (b : Builder) (path : List String) (last : String) (v : Node) :
    Except Issue Builder := do
  let current ← b.current.insert (some b.path) path last v
  .ok { b with current }

/-- Applies a change to the table that holds the last part of a path. -/
def changeParent (root : Node) (path : List String) (change : Node → Except Issue Node) :
    Except Issue Node :=
  root.descend false change [] path.dropLast

/-- A path that stands for something else already. -/
def taken (path : List String) : Issue :=
  duplicateKey (showKey (path.getLastD "")) (some path.dropLast)

/-- Puts the current table where its path leads. -/
def finish (b : Builder) : Except Issue Node :=
  let last := b.path.getLastD ""
  if b.path.isEmpty then .ok b.current
  else if b.repeated then
    changeParent b.root b.path fun parent =>
      match parent.entries.lookup last with
      | none => .ok (parent.withEntries (setEntry last (.tables [b.current]) parent.entries))
      | some (.tables items) =>
          .ok (parent.withEntries
            (setEntry last (.tables (items ++ [b.current])) parent.entries))
      | some _ => .error (taken b.path)
  else
    changeParent b.root b.path fun parent =>
      .ok (parent.withEntries (setEntry last b.current parent.entries))

def startTable (root : Node) (path : List String) : Except Issue Builder := do
  let last := path.getLastD ""
  let reached (parent : Node) : Except Issue Node :=
    match parent.entries.lookup last with
    | none => .ok parent
    | some (.table true false _) => .ok parent
    | some _ => .error (taken path)
  let root ← changeParent root path reached
  let entries (parent : Node) : Node :=
    match parent.entries.lookup last with
    | some n => n
    | none => .root
  let current := entries (path.dropLast.foldl
    (fun n k =>
      match n.entries.lookup k with
      | some (.tables items) => items.getLastD .root
      | some n => n
      | none => .root) root)
  let root ← changeParent root path fun parent =>
    .ok (parent.withEntries (removeEntry last parent.entries))
  .ok { root, current := .table false false current.entries, path, repeated := false }

/-- Begins one more table of a repeated header. -/
def startRepeated (root : Node) (path : List String) : Except Issue Builder := do
  let last := path.getLastD ""
  let root ← changeParent root path fun parent =>
    match parent.entries.lookup last with
    | none => .ok (parent.withEntries (setEntry last (.tables []) parent.entries))
    | some (.tables _) => .ok parent
    | some _ => .error (taken path)
  .ok { root, current := .root, path, repeated := true }

/-- Finishes the current table and begins that of a header. -/
def header (b : Builder) (repeated : Bool) (path : List String) : Except Issue Builder := do
  let root ← b.finish
  if repeated then startRepeated root path else startTable root path

end Builder

def keyLine (b : Builder) (s : List Char) : Except Failure (Builder × List Char) := do
  let ((path, last), r) ← Reading.commit (key s)
  let (_, r) ← equals r
  let (v, r) ← Reading.commit (value (depthLimit - 1) (skipBlanks r))
  let (_, r) ← lineTrailing r
  match b.addLine path last v with
  | .error issue => Reading.refuse issue
  | .ok b => .ok (b, r)

/-- The brackets that open a header, and whether it is a repeated one. -/
def headerOpening : List Char → Option (Bool × List Char)
  | '[' :: '[' :: r => some (true, r)
  | '[' :: c :: r => some (false, c :: r)
  | _ => none

def headerLine (b : Builder) (s : List Char) : Except Failure (Builder × List Char) :=
  Reading.named "table header" <|
    match headerOpening s with
    | none => Reading.refuse {}
    | some (repeated, r) => do
        let ((path, last), r) ← Reading.commit (key r)
        let close := if repeated then "]]" else "]"
        if !close.toList.isPrefixOf r then
          Reading.refuse { expected := ["`.`", "`" ++ close ++ "`"] }
        else do
          let (_, r) ← lineTrailing (r.drop close.length)
          match b.header repeated (path ++ [last]) with
          | .error issue => Reading.refuse issue
          | .ok b => .ok (b, r)

def line (b : Builder) (s : List Char) : Except Failure (Builder × List Char) :=
  match s with
  | '#' :: _ => do
      let (_, r) ← Reading.commit (lineEnd (skipComment s))
      .ok (b, r)
  | '[' :: _ => headerLine b s
  | '\n' :: r => .ok (b, r)
  | '\r' :: '\n' :: r => .ok (b, r)
  | '\r' :: _ => Reading.refuse {}
  | s => keyLine b s

def linesFrom : Nat → Builder → List Char → Except Failure Builder
  | 0, b, _ => .ok b
  | fuel + 1, b, s =>
      match skipBlanks s with
      | [] => .ok b
      | s => do
          let (b, r) ← line b s
          linesFrom fuel b r

def skipByteOrderMark : List Char → List Char
  | [] => []
  | c :: r => if c = Char.ofNat 0xFEFF then r else c :: r

def document (s : List Char) : Except Issue Node := do
  let s := skipByteOrderMark s
  match linesFrom (s.length + 1) {} s with
  | .error f => .error f.issue
  | .ok b => b.finish

end SqlDriver.Toml
