/-
# SqlDriver.Proofs.Engine.Wordless -- the texts that hold no statement

Between the tokens of a text stand blanks and comments, and semicolons in front of a
statement say nothing.  `Wordless` is a text of these alone, piece by piece.  The engine
finds no statement in a text just when it is `Wordless` (`tokens_eq_none_iff`): what
`Token.afterBlank` takes from the front of a text is one piece, and the rest is
wordless just when the text is (`wordless_afterBlank`).
-/
import Mathlib.Data.List.Infix
import Mathlib.Data.List.TakeWhile
import Mathlib.Tactic.SplitIfs
import SqlDriver.Engine.Grammar.Statement

namespace SqlDriver.Engine

set_option autoImplicit false

open SqlDriver.Script (isSpace)

/-! ## Comments -/

/-- No `*/` stands in the text. -/
def Unclosed (s : List Char) : Prop :=
  ¬ ['*', '/'] <:+: s

theorem unclosed_cons {c : Char} {s : List Char} :
    Unclosed (c :: s) ↔ ¬ (c = '*' ∧ s.head? = some '/') ∧ Unclosed s := by
  rw [Unclosed, List.infix_cons_iff, not_or, Unclosed]
  refine and_congr_left fun _ => not_congr ?_
  cases s with
  | nil => simp
  | cons d r => simp [List.cons_prefix_cons, eq_comm]

theorem afterComment_of_unclosed {s : List Char} (unclosed : Unclosed s) :
    Token.afterComment s = [] := by
  fun_induction Token.afterComment s with
  | case1 r => exact absurd ⟨rfl, rfl⟩ (unclosed_cons.mp unclosed).1
  | case2 c r _ ih => exact ih (unclosed_cons.mp unclosed).2
  | case3 => rfl

/-- The first `*/` closes the comment. -/
theorem afterComment_closed {inner : List Char} (unclosed : Unclosed (inner ++ ['*']))
    (r : List Char) : Token.afterComment (inner ++ '*' :: '/' :: r) = r := by
  induction inner with
  | nil => rfl
  | cons c inner ih =>
      obtain ⟨here, later⟩ := unclosed_cons.mp unclosed
      rw [List.cons_append, Token.afterComment]
      · exact ih later
      · rintro more rfl same
        refine here ⟨rfl, ?_⟩
        cases inner with
        | nil => simp at same
        | cons d inner => simpa using (List.cons.inj same).1

theorem unclosed_or_closed (s : List Char) :
    Unclosed s ∨ ∃ inner r, Unclosed (inner ++ ['*']) ∧ s = inner ++ '*' :: '/' :: r := by
  fun_induction Token.afterComment s with
  | case1 r => exact .inr ⟨[], r, by simp [Unclosed, List.infix_cons_iff], rfl⟩
  | case2 c r open_ ih =>
      have here : ¬ (c = '*' ∧ r.head? = some '/') := by
        rintro ⟨rfl, head⟩
        obtain ⟨more, rfl⟩ := List.head?_eq_some_iff.mp head
        exact open_ more rfl rfl
      obtain unclosed | ⟨inner, more, unclosed, rfl⟩ := ih
      · exact .inl (unclosed_cons.mpr ⟨here, unclosed⟩)
      · refine .inr ⟨c :: inner, more, unclosed_cons.mpr ⟨?_, unclosed⟩, rfl⟩
        cases inner with
        | nil => simp
        | cons d inner => simpa using here
  | case3 => exact .inl (by simp [Unclosed])

theorem length_afterComment (s : List Char) : (Token.afterComment s).length ≤ s.length := by
  fun_induction Token.afterComment s with
  | case1 r => simp only [List.length_cons]; omega
  | case2 c r _ ih => simp only [List.length_cons]; omega
  | case3 => simp

/-! ## Texts without a statement -/

/-- The mark that may stand at the front of a file. -/
def byteOrderMark : Char :=
  Char.ofNat 0xFEFF

/-- Nothing but blanks, comments and semicolons. -/
inductive Wordless : List Char → Prop where
  | nil : Wordless []
  | blanks {c : Char} {run r : List Char} (begins : isSpace c)
      (goes : ∀ d ∈ run, Token.continuesBlank d) : Wordless r → Wordless (c :: (run ++ r))
  | mark {r : List Char} : Wordless r → Wordless (byteOrderMark :: r)
  | semicolon {r : List Char} : Wordless r → Wordless (';' :: r)
  /-- A comment up to the end of its line, and the blanks behind it. -/
  | remark {line run r : List Char} (single : '\n' ∉ line)
      (goes : ∀ d ∈ run, Token.continuesBlank d) : Wordless r →
      Wordless ('-' :: '-' :: (line ++ '\n' :: (run ++ r)))
  /-- A comment up to the end of the text. -/
  | lastRemark {line : List Char} (single : '\n' ∉ line) : Wordless ('-' :: '-' :: line)
  | block {inner r : List Char} (unclosed : Unclosed (inner ++ ['*'])) : Wordless r →
      Wordless ('/' :: '*' :: (inner ++ '*' :: '/' :: r))
  /-- A comment that nothing closes.  A text that ends behind `/*` holds none. -/
  | lastBlock {c : Char} {inner : List Char} (unclosed : Unclosed (c :: inner)) :
      Wordless ('/' :: '*' :: c :: inner)

/-- Blanks at the front of a text say nothing, a vertical tab among them or not. -/
theorem Wordless.dropBlanks {s : List Char} (wordless : Wordless s) :
    Wordless (s.dropWhile Token.continuesBlank) := by
  cases wordless with
  | nil => exact .nil
  | @blanks c run r begins goes rest =>
      have here : Token.continuesBlank c := by simp [Token.continuesBlank, begins]
      rw [List.dropWhile_cons_of_pos here, List.dropWhile_append_of_pos goes]
      exact rest.dropBlanks
  | mark rest => exact .mark rest
  | semicolon rest => exact .semicolon rest
  | remark single goes rest => exact .remark single goes rest
  | lastRemark single => exact .lastRemark single
  | block unclosed rest => exact .block unclosed rest
  | lastBlock unclosed => exact .lastBlock unclosed
termination_by s.length

/-! ## The engine's reading -/

/-- The text up to the end of a line, and what follows it. -/
theorem dropWhile_line {line : List Char} (single : '\n' ∉ line) (r : List Char) :
    (line ++ r).dropWhile (· ≠ '\n') = r.dropWhile (· ≠ '\n') := by
  apply List.dropWhile_append_of_pos
  intro c inside
  simpa using fun newline : c = '\n' => single (newline ▸ inside)

theorem afterBlank_of_isSpace {c : Char} (begins : isSpace c) (r : List Char) :
    Token.afterBlank (c :: r) = some (r.dropWhile Token.continuesBlank) := by
  have not_dash : c ≠ '-' := by
    rintro rfl
    exact absurd begins (by decide)
  have not_slash : c ≠ '/' := by
    rintro rfl
    exact absurd begins (by decide)
  rw [Token.afterBlank, if_pos begins]
  · exact fun _ dash => absurd dash not_dash
  · exact fun _ _ slash => absurd slash not_slash

/-- A text that says nothing has ended, or goes on with a semicolon, or the engine passes
over what stands at its front. -/
theorem Wordless.passed {s : List Char} (wordless : Wordless s) :
    s = [] ∨ (∃ r, s = ';' :: r ∧ Wordless r) ∨ ∃ r, Token.afterBlank s = some r ∧ Wordless r := by
  cases wordless with
  | nil => exact .inl rfl
  | semicolon rest => exact .inr (.inl ⟨_, rfl, rest⟩)
  | @blanks c run r begins goes rest =>
      refine .inr (.inr ⟨_, afterBlank_of_isSpace begins _, ?_⟩)
      rw [List.dropWhile_append_of_pos goes]
      exact rest.dropBlanks
  | mark rest => exact .inr (.inr ⟨_, rfl, rest⟩)
  | @remark line run r single goes rest =>
      refine .inr (.inr ⟨_, rfl, ?_⟩)
      rw [dropWhile_line single]
      exact .blanks (by decide) goes rest
  | @lastRemark line single =>
      refine .inr (.inr ⟨_, rfl, ?_⟩)
      rw [← line.append_nil, dropWhile_line single]
      exact .nil
  | @block inner r unclosed rest =>
      have after : Token.afterBlank ('/' :: '*' :: (inner ++ '*' :: '/' :: r)) =
          some (Token.afterComment (inner ++ '*' :: '/' :: r)) := by
        cases inner <;> rfl
      rw [afterComment_closed unclosed] at after
      exact .inr (.inr ⟨r, after, rest⟩)
  | lastBlock unclosed =>
      refine .inr (.inr ⟨_, rfl, ?_⟩)
      rw [afterComment_of_unclosed unclosed]
      exact .nil

/-- A text that goes on with a semicolon says nothing if what follows does not. -/
theorem Wordless.behind_semicolon {r : List Char} (wordless : Wordless (';' :: r)) :
    Wordless r := by
  obtain none | ⟨_, same, rest⟩ | ⟨_, passed, -⟩ := wordless.passed
  · cases none
  · cases same
    exact rest
  · cases passed

/-- What the engine passes over at the front of a text says nothing. -/
theorem wordless_of_passed {s r : List Char} (passed : Token.afterBlank s = some r)
    (rest : Wordless r) : Wordless s := by
  unfold Token.afterBlank at passed
  split at passed
  · cases passed
  · next r' =>
      cases passed
      by_cases newline : '\n' ∈ r'
      · obtain ⟨line, more, rfl, single⟩ := List.eq_append_cons_of_mem newline
        rw [dropWhile_line single, List.dropWhile_cons_of_neg (by simp)] at rest
        have blank := rest.dropBlanks
        rw [List.dropWhile_cons_of_pos (by decide)] at blank
        rw [← List.takeWhile_append_dropWhile (p := Token.continuesBlank) (l := more)]
        exact .remark single (fun d => List.mem_takeWhile_imp) blank
      · exact .lastRemark newline
  · next c r' =>
      cases passed
      obtain unclosed | ⟨inner, more, unclosed, same⟩ := unclosed_or_closed (c :: r')
      · exact .lastBlock unclosed
      · rw [same] at rest ⊢
        rw [afterComment_closed unclosed] at rest
        exact .block unclosed rest
  · next c r' _ _ =>
      split_ifs at passed with begins mark <;> cases passed
      · rw [← List.takeWhile_append_dropWhile (p := Token.continuesBlank) (l := r')]
        exact .blanks begins (fun d => List.mem_takeWhile_imp) rest
      · subst mark
        exact .mark rest

theorem wordless_afterBlank {s r : List Char} (passed : Token.afterBlank s = some r) :
    Wordless s ↔ Wordless r := by
  refine ⟨fun wordless => ?_, wordless_of_passed passed⟩
  obtain rfl | ⟨_, rfl, -⟩ | ⟨r', passed', rest⟩ := wordless.passed
  · cases passed
  · cases passed
  · cases passed.symm.trans passed'
    exact rest

theorem length_afterBlank {s r : List Char} (passed : Token.afterBlank s = some r) :
    r.length < s.length := by
  have shorter (p : Char → Bool) (l : List Char) : (l.dropWhile p).length ≤ l.length :=
    (l.dropWhile_sublist p).length_le
  unfold Token.afterBlank at passed
  split at passed
  · cases passed
  · next r' =>
      cases passed
      have short := shorter (· ≠ '\n') r'
      simp only [List.length_cons]
      omega
  · next c r' =>
      cases passed
      have short := length_afterComment (c :: r')
      simp only [List.length_cons] at short ⊢
      omega
  · next c r' _ _ =>
      split_ifs at passed with begins mark <;> cases passed
      · have short := shorter Token.continuesBlank r'
        simp only [List.length_cons]
        omega
      · simp

/-! ## Tokens -/

/-- The tokens begin no statement: after semicolons comes the end. -/
def Ends (ts : List Token) : Prop :=
  match ts.dropWhile fun t => t.isOperator ";" with
  | [] => True
  | t :: _ => t.kind = .finish

theorem tokens_eq_none (text : List Char) :
    Grammar.tokens text = none ↔ Ends (Token.scan text) := by
  unfold Grammar.tokens Ends
  cases (Token.scan text).dropWhile fun t => t.isOperator ";" with
  | nil => simp
  | cons t r => simp

theorem not_ends {t : Token} (token : t.isOperator ";" = false) (kind : t.kind ≠ .finish)
    (ts : List Token) : ¬ Ends (t :: ts) := by
  rw [Ends, List.dropWhile_cons_of_neg (by simp [token])]
  exact kind

theorem numberToken_ne_finish (s : List Char) : (Token.numberToken s).1 ≠ .finish := by
  unfold Token.numberToken
  extract_lets hex
  cases hex with
  | some n => simp
  | none =>
      dsimp only
      split_ifs <;> simp

theorem variableToken_ne_finish (s : List Char) : (Token.variableToken s).1 ≠ .finish := by
  unfold Token.variableToken
  extract_lets n
  split_ifs <;> simp

theorem blobToken_ne_finish (s : List Char) : (Token.blobToken s).1 ≠ .finish := by
  unfold Token.blobToken
  extract_lets n
  split
  · split_ifs <;> simp
  · simp

/-- Only the end of the text is read as the end. -/
theorem first_ne_finish (c : Char) (r : List Char) : (Token.first (c :: r)).1 ≠ .finish := by
  unfold Token.first
  dsimp only
  split_ifs
  all_goals try first
    | exact variableToken_ne_finish _
    | exact numberToken_ne_finish _
    | exact blobToken_ne_finish _
  -- what is left are the texts in quotes, the point and the operators
  all_goals try split
  all_goals try split_ifs
  all_goals first
    | exact numberToken_ne_finish _
    | simp

/-- A semicolon is read where one stands. -/
theorem isOperator_semicolon {kind : Lexeme} {n : Nat} {c : Char} {r rest : List Char}
    (other : c ≠ ';') : Token.isOperator ⟨kind, (c :: r).take n, rest⟩ ";" = false := by
  cases n with
  | zero => simp [Token.isOperator]
  | succ n => simp [Token.isOperator, other]

theorem ends_scanFrom {fuel : Nat} {s : List Char} (enough : s.length < fuel) :
    Ends (Token.scanFrom fuel s) ↔ Wordless s := by
  induction fuel generalizing s with
  | zero => omega
  | succ fuel ih =>
      rw [Token.scanFrom]
      cases passed : Token.afterBlank s with
      | some r =>
          have shorter := length_afterBlank passed
          rw [wordless_afterBlank passed]
          exact ih (by omega)
      | none =>
          cases s with
          | nil => exact iff_of_true rfl .nil
          | cons c r =>
              rw [List.length_cons] at enough
              by_cases semicolon : c = ';'
              · subst semicolon
                have rest : Ends (Token.scanFrom fuel r) ↔ Wordless r := ih (by omega)
                exact rest.trans ⟨.semicolon, Wordless.behind_semicolon⟩
              · dsimp only
                rw [if_neg (first_ne_finish c r)]
                refine iff_of_false
                  (not_ends (isOperator_semicolon semicolon) (first_ne_finish c r) _) ?_
                intro wordless
                obtain none | ⟨_, same, -⟩ | ⟨_, passed', -⟩ := wordless.passed
                · cases none
                · exact semicolon (List.cons.inj same).1
                · cases passed.symm.trans passed'

/-- The engine finds no statement in a text just when the text says nothing. -/
theorem tokens_eq_none_iff (text : List Char) : Grammar.tokens text = none ↔ Wordless text := by
  rw [tokens_eq_none, Token.scan]
  exact ends_scanFrom (Nat.lt_succ_self _)

end SqlDriver.Engine
