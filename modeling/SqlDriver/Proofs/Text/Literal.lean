/-
# SqlDriver.Proofs.Text.Literal -- what stands inside of a literal is read back

A quote inside of a literal is written twice, and a quote that stands alone closes the
literal.  So what `doubleQuotes` writes never closes it, and the quote behind does unless one
more follows it: the reader of literals and the reader of the engine's tokens both stop there
and yield the text that was written (`standsFor_doubleQuotes`, `standsFor_escape`).
-/
import SqlDriver.Engine.Token
import SqlDriver.Literal
import SqlDriver.Proofs.Text.Trim

namespace SqlDriver

set_option autoImplicit false

open SqlDriver.Text

namespace Literal

open SqlDriver.Engine (Token)

/-- What stands inside of a literal is read as a text, whatever follows the literal other than
one more quote. -/
structure StandsFor (inside text : List Char) : Prop where
  /-- The reader takes it and the closing quote, and leaves what follows. -/
  read : ∀ r, r.head? ≠ some '\'' → readLiteral (inside ++ '\'' :: r) = some (text, r)
  /-- To the engine it is one token, and the next one begins with what follows. -/
  token : ∀ r fuel, r.head? ≠ some '\'' → ∃ t : Token, t.kind = .literal ∧
    t.content = String.ofList text ∧
    Token.scanFrom (fuel + 1) ('\'' :: (inside ++ '\'' :: r)) = t :: Token.scanFrom fuel r

/-! ## Readers, one character at a time -/

theorem doubleQuotes_quote (s : List Char) :
    doubleQuotes ('\'' :: s) = '\'' :: '\'' :: doubleQuotes s := rfl

theorem doubleQuotes_other {c : Char} (other : c ≠ '\'') (s : List Char) :
    doubleQuotes (c :: s) = c :: doubleQuotes s := if_neg other

theorem mem_doubleQuotes {c : Char} {s : List Char} : c ∈ doubleQuotes s ↔ c ∈ s := by
  induction s with
  | nil => exact Iff.rfl
  | cons d s ih =>
      by_cases quote : d = '\''
      · subst quote
        simp [doubleQuotes_quote, ih]
      · simp [doubleQuotes_other quote, ih]

/-- No NUL is left in what was escaped. -/
theorem not_mem_escape (s : List Char) : '\x00' ∉ escape s :=
  fun inside => not_mem_untilNul s (mem_doubleQuotes.mp inside)

theorem readLiteral_other {c : Char} (other : c ≠ '\'') (s : List Char) :
    readLiteral (c :: s) = (readLiteral s).map fun (t, rest) => (c :: t, rest) := by
  simp [readLiteral, other]

theorem readLiteral_close {r : List Char} (alone : r.head? ≠ some '\'') :
    readLiteral ('\'' :: r) = some ([], r) := by
  cases r with
  | nil => rfl
  | cons d r =>
      have other : d ≠ '\'' := fun same => alone (congrArg some same)
      simp [readLiteral, other]

theorem quotedLength_other {c : Char} (other : c ≠ '\'') (s : List Char) :
    Token.quotedLength '\'' (c :: s) = (Token.quotedLength '\'' s).map (· + 1) := by
  cases s <;> simp [Token.quotedLength, other]

theorem quotedLength_close {r : List Char} (alone : r.head? ≠ some '\'') :
    Token.quotedLength '\'' ('\'' :: r) = some 1 := by
  cases r with
  | nil => rfl
  | cons d r =>
      have other : d ≠ '\'' := fun same => alone (congrArg some same)
      simp [Token.quotedLength, other]

theorem unquoted_other {c : Char} (other : c ≠ '\'') (s : List Char) :
    Token.unquoted '\'' (c :: s) = c :: Token.unquoted '\'' s := by
  cases s <;> simp [Token.unquoted, other]

/-! ## What is written is read -/

theorem readLiteral_doubleQuotes (s : List Char) {r : List Char} (alone : r.head? ≠ some '\'') :
    readLiteral (doubleQuotes s ++ '\'' :: r) = some (s, r) := by
  induction s with
  | nil => exact readLiteral_close alone
  | cons c s ih =>
      by_cases quote : c = '\''
      · subst quote
        simp [doubleQuotes_quote, readLiteral, ih]
      · rw [doubleQuotes_other quote, List.cons_append, readLiteral_other quote, ih]
        rfl

theorem quotedLength_doubleQuotes (s : List Char) {r : List Char} (alone : r.head? ≠ some '\'') :
    Token.quotedLength '\'' (doubleQuotes s ++ '\'' :: r) = some ((doubleQuotes s).length + 1) := by
  induction s with
  | nil => exact quotedLength_close alone
  | cons c s ih =>
      by_cases quote : c = '\''
      · subst quote
        simp [doubleQuotes_quote, Token.quotedLength, ih]
      · rw [doubleQuotes_other quote, List.cons_append, quotedLength_other quote, ih]
        rfl

theorem unquoted_doubleQuotes (s : List Char) :
    Token.unquoted '\'' (doubleQuotes s ++ ['\'']) = s := by
  induction s with
  | nil => rfl
  | cons c s ih =>
      by_cases quote : c = '\''
      · subst quote
        simp [doubleQuotes_quote, Token.unquoted, ih]
      · rw [doubleQuotes_other quote, List.cons_append, unquoted_other quote, ih]

theorem standsFor_doubleQuotes (s : List Char) : StandsFor (doubleQuotes s) s where
  read _ := readLiteral_doubleQuotes s
  token r fuel alone := by
    have cut : '\'' :: (doubleQuotes s ++ '\'' :: r) =
        ('\'' :: (doubleQuotes s ++ ['\''])) ++ r := by simp
    have size : (doubleQuotes s).length + 1 + 1 = ('\'' :: (doubleQuotes s ++ ['\''])).length := by
      simp
    have first : Token.first ('\'' :: (doubleQuotes s ++ '\'' :: r)) =
        (.literal, (doubleQuotes s).length + 1 + 1) := by
      simp [Token.first, quotedLength_doubleQuotes s alone]
    refine ⟨⟨.literal, '\'' :: (doubleQuotes s ++ ['\'']), '\'' :: (doubleQuotes s ++ '\'' :: r)⟩,
      rfl, congrArg String.ofList (unquoted_doubleQuotes s), ?_⟩
    have here : Token.afterBlank ('\'' :: (doubleQuotes s ++ '\'' :: r)) = none := rfl
    rw [Token.scanFrom, here]
    dsimp only
    rw [first, cut, size, List.take_left, List.drop_left]
    rfl

/-- What `escape` writes stands for the text up to its first NUL. -/
theorem standsFor_escape (s : List Char) : StandsFor (escape s) (untilNul s) :=
  standsFor_doubleQuotes (untilNul s)

theorem StandsFor.unique {inside s t : List Char} (first : StandsFor inside s)
    (second : StandsFor inside t) : s = t := by
  have same := (first.read [] (by simp)).symm.trans (second.read [] (by simp))
  exact congrArg Prod.fst (Option.some.inj same)

theorem escape_append {s : List Char} (clean : '\x00' ∉ s) (t : List Char) :
    escape (s ++ t) = escape s ++ escape t := by
  rw [escape, untilNul_append clean, doubleQuotes_append, escape, escape, untilNul_eq_self clean]

theorem escape_injective {s t : List Char} (clean : '\x00' ∉ s) (clean' : '\x00' ∉ t)
    (same : escape s = escape t) : s = t := by
  have stands := standsFor_escape s
  have stands' := standsFor_escape t
  rw [untilNul_eq_self clean, same] at stands
  rw [untilNul_eq_self clean'] at stands'
  exact stands.unique stands'

end Literal

end SqlDriver
