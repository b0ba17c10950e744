/-
# SqlDriver.Literal -- texts inside single quotes

In SQL a text stands between single quotes and a quote inside it is written twice.
`escape` writes the inside; a text ends at its first NUL.  `readLiteral` reads up to
the quote that closes a literal.
-/
import SqlDriver.Text.Blank

namespace SqlDriver.Literal

set_option autoImplicit false

/-- Writes each quote twice. -/
def doubleQuotes : List Char → List Char
  | [] => []
  | c :: r => if c = '\'' then '\'' :: '\'' :: doubleQuotes r else c :: doubleQuotes r

def escape (s : List Char) : List Char :=
  doubleQuotes (Text.untilNul s)

/-- The text for the inside of a literal, for strings. -/
def escapeString (s : String) : String :=
  String.ofList (escape s.toList)

/-- Reads the inside of a literal up to its closing quote: the text that it stands
for, and what follows the quote.  `none` if no quote closes it. -/
def readLiteral : List Char → Option (List Char × List Char)
  | [] => none
  | '\'' :: '\'' :: r => (readLiteral r).map fun (s, rest) => ('\'' :: s, rest)
  | c :: r => if c = '\'' then some ([], r) else (readLiteral r).map fun (s, rest) => (c :: s, rest)

theorem doubleQuotes_append (s t : List Char) :
    doubleQuotes (s ++ t) = doubleQuotes s ++ doubleQuotes t := by
  induction s with
  | nil => rfl
  | cons c r ih => by_cases h : c = '\'' <;> simp [doubleQuotes, h, ih]

end SqlDriver.Literal
