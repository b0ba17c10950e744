/-
# SqlDriver.Script.Split -- the statements of a script

A script is cut behind every semicolon at which the text since the last cut is
complete (`chunks_flatten`: the chunks make up the script).  A chunk becomes a
statement without its outer blanks and its last semicolon, unless nothing is left
of it but blank lines and line comments.
-/
import SqlDriver.Script.Complete

namespace SqlDriver.Script

set_option autoImplicit false

/-- Cuts a text behind every semicolon that completes the text since the last cut.
The characters since that cut are given in reverse. -/
def chunksFrom (seen : List Char) : List Char → List (List Char)
  | [] => [seen.reverse]
  | c :: r =>
      if c = ';' && isComplete (c :: seen).reverse then (c :: seen).reverse :: chunksFrom [] r
      else chunksFrom (c :: seen) r

/-- The chunks of a script.  Only the last one may be incomplete. -/
def chunks (script : List Char) : List (List Char) :=
  chunksFrom [] script

/-- The text without one semicolon at its end. -/
def dropSemicolon (s : List Char) : List Char :=
  if s.getLast? = some ';' then s.dropLast else s

/-- A chunk without its outer blanks and its last semicolon. -/
def body (chunk : List Char) : List Char :=
  Text.trimEnd (dropSemicolon (Text.trim chunk))

/-- The line is blank or a comment. -/
def isCommentLine (line : List Char) : Bool :=
  let line := Text.trim line
  line.isEmpty || ['-', '-'].isPrefixOf line

/-- Every line is blank or a comment. -/
def isCommentOnly (s : List Char) : Bool :=
  (Text.lines s).all isCommentLine

def split (script : List Char) : List (List Char) :=
  ((chunks script).map body).filter fun s => !isCommentOnly s

def statements (script : String) : List String :=
  (split script.toList).map String.ofList

theorem chunksFrom_flatten (seen s : List Char) :
    (chunksFrom seen s).flatten = seen.reverse ++ s := by
  induction s generalizing seen with
  | nil => simp [chunksFrom]
  | cons c r ih =>
      unfold chunksFrom
      split <;> simp [ih]

theorem chunks_flatten (script : List Char) : (chunks script).flatten = script := by
  simp [chunks, chunksFrom_flatten]

end SqlDriver.Script
