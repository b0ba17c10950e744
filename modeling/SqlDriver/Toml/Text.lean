/-
# SqlDriver.Toml.Text -- texts in quotes

A text stands between double quotes, where a backslash begins an escape, or
between single quotes, where nothing does.  Three quotes begin a text of several
lines: a line end right behind them is dropped, and each line end counts as one
newline.
-/
import SqlDriver.Toml.Node

namespace SqlDriver.Toml

set_option autoImplicit false

def isBlankChar (c : Char) : Bool :=
  c = ' ' || c = '\t'

def skipBlanks (s : List Char) : List Char :=
  s.dropWhile isBlankChar

/-- What follows the line end at the front of a text. -/
def newline? : List Char → Option (List Char)
  | '\n' :: r => some r
  | '\r' :: '\n' :: r => some r
  | _ => none

/-- The text without the blanks and line ends at its front. -/
def skipBlankLines : List Char → List Char
  | '\r' :: '\n' :: r => skipBlankLines r
  | c :: r => if isBlankChar c || c = '\n' then skipBlankLines r else c :: r
  | [] => []

/-- A character that stands for itself in a text or a comment. -/
def isPlain (c : Char) : Bool :=
  !isControl c || c = '\t'

def isHexDigit (c : Char) : Bool :=
  c.isDigit || ('a' ≤ c && c ≤ 'f') || ('A' ≤ c && c ≤ 'F')

def hexDigitValue (c : Char) : Nat :=
  if c.isDigit then c.toNat - '0'.toNat
  else if 'a' ≤ c then c.toNat - 'a'.toNat + 10
  else c.toNat - 'A'.toNat + 10

def hexValue (s : List Char) : Nat :=
  s.foldl (fun n c => 16 * n + hexDigitValue c) 0

/-- The character with a code point of so many hexadecimal digits. -/
def codePoint (size : Nat) (s : List Char) : Except Failure (Char × List Char) :=
  let digits := (s.take size).takeWhile isHexDigit
  let name := "unicode " ++ toString size ++ "-digit hex code"
  if digits.length ≠ size then Reading.refuse { construct := some name }
  else
    let n := hexValue digits
    if n.isValidChar then .ok (Char.ofNat n, s.drop size)
    else Reading.refuse { construct := some name, cause := some "value is out of range" }

/-- The character that the escape behind a backslash stands for. -/
def escaped : List Char → Except Failure (Char × List Char)
  | [] => Reading.missing
  | 'b' :: r => .ok ('\x08', r)
  | 'f' :: r => .ok ('\x0c', r)
  | 'n' :: r => .ok ('\n', r)
  | 'r' :: r => .ok ('\r', r)
  | 't' :: r => .ok ('\t', r)
  | '\\' :: r => .ok ('\\', r)
  | '"' :: r => .ok ('"', r)
  | 'u' :: r => codePoint 4 r
  | 'U' :: r => codePoint 8 r
  | _ =>
      Reading.refuse
        { construct := some "escape sequence"
          expected := ["`b`", "`f`", "`n`", "`r`", "`t`", "`u`", "`U`", "`\\`", "`\"`"] }

/-- The rest of a text behind its opening double quote. -/
def basicBody : Nat → List Char → Except Failure (List Char × List Char)
  | 0, _ => Reading.refuse { construct := some "basic string" }
  | fuel + 1, s =>
      let unclosed : Except Failure (List Char × List Char) :=
        Reading.refuse { construct := some "basic string" }
      match s with
      | [] => unclosed
      | '"' :: r => .ok ([], r)
      | '\\' :: r =>
          match escaped r with
          | .error f => if f.final then .error f else unclosed
          | .ok (c, r) => do
              let (t, r) ← basicBody fuel r
              .ok (c :: t, r)
      | c :: r =>
          if isPlain c then do
            let (t, r) ← basicBody fuel r
            .ok (c :: t, r)
          else unclosed

/-- The rest of a text of one line behind its opening single quote. -/
def literalBody (s : List Char) : Except Failure (List Char × List Char) :=
  let plain (c : Char) : Bool := isPlain c && c ≠ '\''
  match s.dropWhile plain with
  | '\'' :: r => .ok (s.takeWhile plain, r)
  | _ => Reading.refuse { construct := some "literal string" }

/-- Reads a row of `quote` in a text of several lines.  Fewer than three belong to the
text; three end it, and one or two in front of those belong to it. -/
def quoteRun (quote : Char) (s : List Char) : List Char × Option (List Char) :=
  let size := (s.takeWhile (· = quote)).length
  if size < 3 then (List.replicate size quote, none)
  else
    let extra := min (size - 3) 2
    (List.replicate extra quote, some (s.drop (extra + 3)))

/-- The rest of a text of several lines between double quotes. -/
def multilineBasicBody : Nat → List Char → Except Failure (List Char × List Char)
  | 0, _ => Reading.refuse { construct := some "multiline basic string" }
  | fuel + 1, s =>
      let unclosed : Except Failure (List Char × List Char) :=
        Reading.refuse { construct := some "multiline basic string" }
      let more (front : List Char) (r : List Char) : Except Failure (List Char × List Char) := do
        let (t, r) ← multilineBasicBody fuel r
        .ok (front ++ t, r)
      match s with
      | [] => unclosed
      | '"' :: _ =>
          match quoteRun '"' s with
          | (extra, some r) => .ok (extra, r)
          | (extra, none) => more extra (s.drop extra.length)
      | '\\' :: r =>
          match newline? (skipBlanks r) with
          | some r => more [] (skipBlankLines r)
          | none =>
              match escaped r with
              | .error f => if f.final then .error f else unclosed
              | .ok (c, r) => more [c] r
      | c :: r =>
          match newline? s with
          | some r => more ['\n'] r
          | none => if isPlain c then more [c] r else unclosed

/-- The rest of a text of several lines between single quotes. -/
def multilineLiteralBody : Nat → List Char → Except Failure (List Char × List Char)
  | 0, _ => Reading.refuse { construct := some "multiline literal string" }
  | fuel + 1, s =>
      let unclosed : Except Failure (List Char × List Char) :=
        Reading.refuse { construct := some "multiline literal string" }
      let more (front : List Char) (r : List Char) : Except Failure (List Char × List Char) := do
        let (t, r) ← multilineLiteralBody fuel r
        .ok (front ++ t, r)
      match s with
      | [] => unclosed
      | '\'' :: _ =>
          match quoteRun '\'' s with
          | (extra, some r) => .ok (extra, r)
          | (extra, none) => more extra (s.drop extra.length)
      | c :: r =>
          match newline? s with
          | some r => more ['\n'] r
          | none => if isPlain c then more [c] r else unclosed

/-- What follows a line end, if one stands at the front, and else the text. -/
def skipNewline (s : List Char) : List Char :=
  (newline? s).getD s

def quotedText (s : List Char) : Except Failure (List Char × List Char) :=
  match s with
  | '"' :: '"' :: '"' :: r =>
      Reading.named "multiline basic string" (multilineBasicBody (r.length + 1) (skipNewline r))
  | '"' :: r => basicBody (r.length + 1) r
  | '\'' :: '\'' :: '\'' :: r => multilineLiteralBody (r.length + 1) (skipNewline r)
  | '\'' :: r => literalBody r
  | _ => Reading.missing

end SqlDriver.Toml
