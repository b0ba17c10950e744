/-
# SqlDriver.Engine.Token -- the words of a statement

A text is cut into tokens; blanks and comments lie between them.  What cannot be a
token is one of its own kind, so that the place where it stands decides which error
is reported first.  `Token.scan` ends with an empty token at the text's end.
-/
import SqlDriver.Script.Complete

namespace SqlDriver.Engine

set_option autoImplicit false

/-- The kinds of token. -/
inductive Lexeme where
  /-- A word without quotes: a keyword or a name. -/
  | word
  /-- A name in double quotes. -/
  | quotedName
  /-- A name in brackets or back quotes. -/
  | bracketed
  /-- A text in single quotes. -/
  | literal
  | integer
  | float
  | blob
  | variable
  | operator
  /-- No token. -/
  | illegal
  /-- The end of the text. -/
  | finish
deriving DecidableEq, Repr, Inhabited

/-- A token. -/
structure Token where
  kind : Lexeme
  /-- Its characters. -/
  text : List Char
  /-- The text from the token's first character on. -/
  rest : List Char
deriving Repr, Inhabited

namespace Token

def isNameChar (c : Char) : Bool := Script.isWordChar c

def isDigit (c : Char) : Bool := c.isDigit

def isHexDigit (c : Char) : Bool :=
  c.isDigit || ('a' ≤ c && c ≤ 'f') || ('A' ≤ c && c ≤ 'F')

/-- What follows the end of a comment in `/*` and `*/`; a comment may lack its end. -/
def afterComment : List Char → List Char
  | '*' :: '/' :: r => r
  | _ :: r => afterComment r
  | [] => []

/-- The number of characters up to the quote that closes a quoted text, with it; a
quote that is written twice closes nothing.  `none` if nothing closes it. -/
def quotedLength (quote : Char) : List Char → Option Nat
  | [] => none
  | c :: r =>
      if c = quote then
        match r with
        | d :: r' => if d = quote then (quotedLength quote r').map (· + 2) else some 1
        | [] => some 1
      else (quotedLength quote r).map (· + 1)

/-- The number of characters of a number, and whether it is a float. -/
def numberLength (s : List Char) : Nat × Bool :=
  let whole := s.takeWhile isDigit
  let r := s.dropWhile isDigit
  let (n, float, r) : Nat × Bool × List Char :=
    match r with
    | '.' :: r' =>
        (whole.length + 1 + (r'.takeWhile isDigit).length, true, r'.dropWhile isDigit)
    | r => (whole.length, false, r)
  match r with
  | e :: r' =>
      if e = 'e' || e = 'E' then
        match r' with
        | '+' :: d :: _ =>
            if isDigit d then (n + 2 + ((r'.drop 1).takeWhile isDigit).length, true) else (n, float)
        | '-' :: d :: _ =>
            if isDigit d then (n + 2 + ((r'.drop 1).takeWhile isDigit).length, true) else (n, float)
        | d :: _ => if isDigit d then (n + 1 + (r'.takeWhile isDigit).length, true) else (n, float)
        | [] => (n, float)
      else (n, float)
  | [] => (n, float)

def numberToken (s : List Char) : Lexeme × Nat :=
  let hex : Option Nat :=
    match s with
    | '0' :: x :: d :: r =>
        if (x = 'x' || x = 'X') && isHexDigit d then some (3 + (r.takeWhile isHexDigit).length)
        else none
    | _ => none
  match hex with
  | some n => (.integer, n)
  | none =>
      let (n, float) := numberLength s
      let more := ((s.drop n).takeWhile isNameChar).length
      if 0 < more then (.illegal, n + more) else (if float then .float else .integer, n)

/-- The kind and length of a variable behind its mark. -/
def variableToken (s : List Char) : Lexeme × Nat :=
  let n := (s.takeWhile isNameChar).length
  if n = 0 then (.illegal, 1) else (.variable, n + 1)

/-- The kind and length of a blob behind its `x'`. -/
def blobToken (s : List Char) : Lexeme × Nat :=
  let n := (s.takeWhile isHexDigit).length
  match s.drop n with
  | '\'' :: _ =>
      if n % 2 = 0 then (.blob, n + 3) else (.illegal, n + 3)
  | r =>
      let more := (r.takeWhile (· ≠ '\'')).length
      (.illegal, n + more + 2 + (if (r.drop more).isEmpty then 0 else 1))

/-- The kind and length of the token at the front of a text that does not begin with a
blank or a comment. -/
def first (s : List Char) : Lexeme × Nat :=
  match s with
  | [] => (.finish, 0)
  | c :: r =>
      if c = '\'' then
        match quotedLength c r with
        | some n => (.literal, n + 1)
        | none => (.illegal, s.length)
      else if c = '"' || c.toNat = 0x60 then
        match quotedLength c r with
        | some n => (if c = '"' then .quotedName else .bracketed, n + 1)
        | none => (.illegal, s.length)
      else if c = '[' then
        let n := (r.takeWhile (· ≠ ']')).length
        if n = r.length then (.illegal, n + 1) else (.bracketed, n + 2)
      else if isDigit c then numberToken s
      else if c = '.' then
        match r with
        | d :: _ => if isDigit d then numberToken s else (.operator, 1)
        | [] => (.operator, 1)
      else if c = '?' then (.variable, 1 + (r.takeWhile isDigit).length)
      else if c = '$' || c = '@' || c = '#' || c = ':' then variableToken r
      else if (c = 'x' || c = 'X') && r.head? = some '\'' then blobToken (r.drop 1)
      else if isNameChar c then (.word, (s.takeWhile isNameChar).length)
      else
        match s with
        | '=' :: '=' :: _ => (.operator, 2)
        | '<' :: '=' :: _ => (.operator, 2)
        | '<' :: '>' :: _ => (.operator, 2)
        | '<' :: '<' :: _ => (.operator, 2)
        | '>' :: '=' :: _ => (.operator, 2)
        | '>' :: '>' :: _ => (.operator, 2)
        | '!' :: '=' :: _ => (.operator, 2)
        | '|' :: '|' :: _ => (.operator, 2)
        | '-' :: '>' :: '>' :: _ => (.operator, 3)
        | '-' :: '>' :: _ => (.operator, 2)
        | _ => (if "()*+-/%<>=|&~,;".toList.contains c then .operator else .illegal, 1)

/-- A character that continues blanks.  The vertical tab does, but begins none. -/
def continuesBlank (c : Char) : Bool :=
  Script.isSpace c || c = '\x0b'

/-- What follows blanks or a comment at the front of a text; `none` if a token stands
there. -/
def afterBlank : List Char → Option (List Char)
  | [] => none
  | '-' :: '-' :: r => some (r.dropWhile (· ≠ '\n'))
  | '/' :: '*' :: c :: r => some (afterComment (c :: r))
  | c :: r =>
      if Script.isSpace c then some (r.dropWhile continuesBlank)
      else if c = Char.ofNat 0xFEFF then some r
      else none

def scanFrom : Nat → List Char → List Token
  | 0, s => [⟨.finish, [], s⟩]
  | fuel + 1, s =>
      match afterBlank s with
      | some r => scanFrom fuel r
      | none =>
          let (kind, n) := first s
          if kind = .finish then [⟨.finish, [], []⟩]
          else ⟨kind, s.take n, s⟩ :: scanFrom fuel (s.drop n)

/-- The tokens of a text, the last of them empty. -/
def scan (s : List Char) : List Token :=
  scanFrom (s.length + 1) s

/-- The characters of a text in quotes, without them and with doubled ones single. -/
def unquoted (quote : Char) : List Char → List Char
  | [] => []
  | c :: r =>
      if c = quote then
        match r with
        | d :: r' => if d = quote then c :: unquoted quote r' else []
        | [] => []
      else c :: unquoted quote r

/-- The characters of a text in quotes that it begins with, or else all of it. -/
def leadingContent : List Char → List Char
  | [] => []
  | c :: r =>
      if c = '\'' || c = '"' || c = '`' then unquoted c r
      else if c = '[' then unquoted ']' r
      else c :: r

def content (t : Token) : String :=
  match t.kind, t.text with
  | .literal, c :: r => String.ofList (unquoted c r)
  | .quotedName, c :: r => String.ofList (unquoted c r)
  | .bracketed, c :: r =>
      if c = '[' then String.ofList (r.takeWhile (· ≠ ']')) else String.ofList (unquoted c r)
  | _, cs => String.ofList cs

/-- The word in upper case; nothing for other tokens. -/
def keyword (t : Token) : String :=
  if t.kind = .word then String.ofList (t.text.map Char.toUpper) else ""

def isOperator (t : Token) (op : String) : Bool :=
  t.kind = .operator && t.text = op.toList

end Token

end SqlDriver.Engine
