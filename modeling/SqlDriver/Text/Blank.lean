/-
# SqlDriver.Text.Blank -- white space at the ends of a text, and lines

Texts are taken apart as lists of characters.  `isBlank` is Unicode's White_Space
property, which is wider than the ASCII blanks: `isBlank_of_isWhitespace` says
that it holds of every one of those.
-/

namespace SqlDriver.Text

set_option autoImplicit false

/-- The characters with Unicode's White_Space property. -/
def isBlank (c : Char) : Bool :=
  let n := c.toNat
  (9 ≤ n && n ≤ 13) || n == 0x20 || n == 0x85 || n == 0xA0 || n == 0x1680 ||
    (0x2000 ≤ n && n ≤ 0x200A) || n == 0x2028 || n == 0x2029 || n == 0x202F ||
    n == 0x205F || n == 0x3000

/-- The text from its first character that is not blank. -/
def trimStart (s : List Char) : List Char :=
  s.dropWhile isBlank

/-- The text up to its last character that is not blank. -/
def trimEnd (s : List Char) : List Char :=
  (s.reverse.dropWhile isBlank).reverse

/-- The text without the blanks at both ends. -/
def trim (s : List Char) : List Char :=
  trimEnd (trimStart s)

/-- The lines of a text, without the newlines that end them.  A text has one line
more than it has newlines. -/
def lines : List Char → List (List Char)
  | [] => [[]]
  | c :: r =>
      if c = '\n' then [] :: lines r
      else
        match lines r with
        | [] => [[c]]
        | l :: ls => (c :: l) :: ls

/-- The text up to its first NUL. -/
def untilNul (s : List Char) : List Char :=
  s.takeWhile (· ≠ '\x00')

theorem isBlank_of_isWhitespace {c : Char} (h : c.isWhitespace) : isBlank c := by
  simp only [Char.isWhitespace, Bool.or_eq_true, decide_eq_true_eq] at h
  rcases h with ((rfl | rfl) | rfl) | rfl <;> decide

theorem lines_ne_nil (s : List Char) : lines s ≠ [] := by
  cases s with
  | nil => simp [lines]
  | cons c r =>
      unfold lines
      split
      · simp
      · split <;> simp

end SqlDriver.Text
