/-
# SqlDriver.Proofs.Script.Lexeme -- a script as a list of tokens with their texts

A reader of whole tokens looks for the end of a literal, a quoted name or a comment by what
closes it, takes the longest word there is, and leaves no place within a token.  `lexemes`
are the tokens that it finds; they make up the script (`lexemes_text`) and none is empty
(`Lexeme.text_ne_nil`).

`OpensTrigger` and `ClosesTrigger` say of tokens how a trigger begins and where its body ends;
`State.run_opensTrigger` and `State.run_body` are what the states of a statement make of them.
-/
import Mathlib.Data.List.Induction
import SqlDriver.Proofs.Script.Reading

namespace SqlDriver.Script

set_option autoImplicit false

/-! ## What has a beginning and an end -/

/-- What is read up to the mark that closes it. -/
inductive Enclosure where
  | literal
  | quotedName
  | backquotedName
  | bracketedName
  | lineComment
  | blockComment
deriving DecidableEq, Repr

namespace Enclosure

def opens : Enclosure → List Char
  | literal => ['\'']
  | quotedName => ['"']
  | backquotedName => ['\x60']
  | bracketedName => ['[']
  | lineComment => ['-', '-']
  | blockComment => ['/', '*']

def closes : Enclosure → List Char
  | literal => ['\'']
  | quotedName => ['"']
  | backquotedName => ['\x60']
  | bracketedName => [']']
  | lineComment => ['\n']
  | blockComment => ['*', '/']

/-- A comment is as good as a blank. -/
def token : Enclosure → Token
  | lineComment | blockComment => .blank
  | literal | quotedName | backquotedName | bracketedName => .other

def all : List Enclosure :=
  [literal, quotedName, backquotedName, bracketedName, lineComment, blockComment]

/-- What a text begins with. -/
def opening? (s : List Char) : Option Enclosure :=
  all.find? fun e => e.opens.isPrefixOf s

theorem opens_of_opening? {s : List Char} {e : Enclosure} (begins : opening? s = some e) :
    e.opens <+: s := by
  have found := List.find?_some (p := fun e : Enclosure => e.opens.isPrefixOf s) begins
  exact List.isPrefixOf_iff_prefix.mp found

theorem not_opens_of_opening? {s : List Char} (begins : opening? s = none) (e : Enclosure) :
    ¬ e.opens <+: s := by
  have among : e ∈ all := by cases e <;> decide
  have none_found := List.find?_eq_none.mp begins e among
  simpa using none_found

end Enclosure

/-- What stands in front of the first mark in a text, and what stands behind it; all of a text
without one. -/
def upTo (mark : List Char) : List Char → List Char × Option (List Char)
  | [] => ([], none)
  | c :: r =>
      if mark <+: c :: r then ([], some ((c :: r).drop mark.length))
      else (c :: (upTo mark r).1, (upTo mark r).2)

theorem upTo_text (mark s : List Char) :
    (upTo mark s).1 ++ ((upTo mark s).2.map (mark ++ ·)).getD [] = s := by
  induction s with
  | nil => rfl
  | cons c r ih =>
      unfold upTo
      split
      · next here =>
          obtain ⟨rest, whole⟩ := here
          simp [← whole]
      · exact congrArg (c :: ·) ih

/-! ## Tokens with their texts -/

inductive Lexeme where
  | semicolon
  | space (c : Char)
  /-- All but the last token of a text are closed. -/
  | enclosed (e : Enclosure) (inner : List Char) (closed : Bool)
  | word (first : Char) (more : List Char)
  | other (c : Char)
deriving DecidableEq, Repr

namespace Lexeme

def text : Lexeme → List Char
  | semicolon => [';']
  | space c => [c]
  | enclosed e inner closed => e.opens ++ (inner ++ if closed then e.closes else [])
  | word first more => first :: more
  | other c => [c]

def token : Lexeme → Token
  | semicolon => .semicolon
  | space _ => .blank
  | enclosed e _ _ => e.token
  | word first more => .ofWord (first :: more)
  | other _ => .other

theorem text_ne_nil (l : Lexeme) : l.text ≠ [] := by
  cases l with
  | enclosed e inner closed => cases e <;> simp [text, Enclosure.opens]
  | semicolon | space c | word first more | other c => simp [text]

theorem token_eq_semicolon_iff (l : Lexeme) : l.token = .semicolon ↔ l = semicolon := by
  cases l with
  | semicolon => simp [token]
  | enclosed e inner closed => cases e <;> simp [token, Enclosure.token]
  | word first more => simp [token, (Token.ofWord_ne (first :: more)).1]
  | space c | other c => simp [token]

end Lexeme

/-- The tokens of a text. -/
def lexemes : List Char → List Lexeme
  | [] => []
  | c :: r =>
      match Enclosure.opening? (c :: r) with
      | some e =>
          match _ : upTo e.closes ((c :: r).drop e.opens.length) with
          | (inner, some rest) => .enclosed e inner true :: lexemes rest
          | (inner, none) => [.enclosed e inner false]
      | none =>
          if c = ';' then .semicolon :: lexemes r
          else if isSpace c then .space c :: lexemes r
          else if isWordChar c then
            .word c (r.takeWhile isWordChar) :: lexemes (r.dropWhile isWordChar)
          else .other c :: lexemes r
termination_by s => s.length
decreasing_by
  · have whole := upTo_text e.closes ((c :: r).drop e.opens.length)
    rw [‹upTo _ _ = _›] at whole
    have sizes := congrArg List.length whole
    have some_mark : 0 < e.closes.length := by cases e <;> decide
    simp at sizes ⊢
    omega
  · simp
  · simp
  · exact Nat.lt_succ_of_le (List.length_dropWhile_le _ _)
  · simp

theorem lexemes_text (s : List Char) : (lexemes s).flatMap Lexeme.text = s := by
  fun_induction lexemes s with
  | case1 => rfl
  | case2 c r e begins inner rest there ih =>
      have whole := upTo_text e.closes ((c :: r).drop e.opens.length)
      rw [there] at whole
      rw [List.flatMap_cons, ih]
      obtain ⟨t, front⟩ := Enclosure.opens_of_opening? begins
      rw [← front] at whole ⊢
      rw [List.drop_left] at whole
      simpa [Lexeme.text] using whole
  | case3 c r e begins inner there =>
      have whole := upTo_text e.closes ((c :: r).drop e.opens.length)
      rw [there] at whole
      obtain ⟨t, front⟩ := Enclosure.opens_of_opening? begins
      rw [← front] at whole ⊢
      rw [List.drop_left] at whole
      simpa [Lexeme.text] using whole
  | case4 r begins ih => simp [Lexeme.text, ih]
  | case5 c r begins other space ih => simp [Lexeme.text, ih]
  | case6 c r begins other dark inside ih =>
      rw [List.flatMap_cons, ih]
      simp [Lexeme.text, List.takeWhile_append_dropWhile]
  | case7 c r begins other dark outside ih => simp [Lexeme.text, ih]

/-- Two dashes begin a comment and one does not, and what is not closed holds the rest. -/
example : lexemes "a-';'/*;*/[;".toList =
    [.word 'a' [], .other '-', .enclosed .literal [';'] true, .enclosed .blockComment [';'] true,
      .enclosed .bracketedName [';'] false] := by
  decide +kernel

/-! ## Triggers -/

/-- The last token that is no blank is `t`, and stands behind `front`. -/
def EndsIn (t : Token) (front tokens : List Token) : Prop :=
  ∃ gap, tokens = front ++ t :: gap ∧ ∀ g ∈ gap, g = .blank

/-- `CREATE TRIGGER`, with `TEMP` or without, and `EXPLAIN` or `EXPLAIN QUERY PLAN` in front of it
or not. -/
def OpensTrigger (tokens : List Token) : Prop :=
  ∃ lead plan options, tokens = lead ++ (plan ++ .create :: (options ++ [.trigger])) ∧
    (∀ t ∈ lead, t = .blank) ∧
    (plan = [] ∨ ∃ more, plan = .explain :: more ∧ ∀ t ∈ more, t = .blank ∨ t = .other) ∧
    ∀ t ∈ options, t = .blank ∨ t = .temporary

theorem OpensTrigger.no_semicolon {tokens : List Token} (opens : OpensTrigger tokens) :
    .semicolon ∉ tokens := by
  obtain ⟨lead, plan, options, rfl, blank, explained, optional⟩ := opens
  intro inside
  simp only [List.mem_append, List.mem_cons, List.not_mem_nil, or_false] at inside
  rcases inside with early | planned | create | late | trigger
  · cases blank _ early
  · rcases explained with rfl | ⟨more, rfl, plain⟩
    · cases planned
    · rcases List.mem_cons.mp planned with explain | later
      · cases explain
      · rcases plain _ later with no | no <;> cases no
  · cases create
  · rcases optional _ late with no | no <;> cases no
  · cases trigger

def AfterSemicolon (tokens : List Token) : Prop :=
  ∃ front, EndsIn .semicolon front tokens

/-- `END` has come right behind a semicolon of the body, so that the next one is not of it. -/
def ClosesTrigger (tokens : List Token) : Prop :=
  ∃ front, EndsIn .closing front tokens ∧ AfterSemicolon front

/-- One more token ends a text with a token if it is that one, or a blank behind it. -/
theorem endsIn_snoc {t u : Token} {front tokens : List Token} (dark : t ≠ .blank) :
    EndsIn t front (tokens ++ [u]) ↔
      (u = t ∧ front = tokens) ∨ (u = .blank ∧ EndsIn t front tokens) := by
  constructor
  · rintro ⟨gap, same, blank⟩
    obtain rfl | ⟨gap, g, rfl⟩ := List.eq_nil_or_concat gap
    · obtain ⟨rfl, last⟩ := List.append_inj' same rfl
      exact .inl ⟨List.singleton_inj.mp last, rfl⟩
    · have split : tokens ++ [u] = (front ++ t :: gap) ++ [g] := by simpa using same
      obtain ⟨rfl, last⟩ := List.append_inj' split rfl
      obtain rfl := List.singleton_inj.mp last
      refine .inr ⟨blank u (by simp), gap, rfl, ?_⟩
      intro g inside
      exact blank g (by simp [inside])
  · rintro (⟨rfl, rfl⟩ | ⟨rfl, gap, rfl, blank⟩)
    · exact ⟨[], rfl, by simp⟩
    · refine ⟨gap ++ [.blank], by simp, ?_⟩
      intro g inside
      rcases List.mem_append.mp inside with early | last
      · exact blank g early
      · exact List.mem_singleton.mp last

theorem afterSemicolon_snoc (tokens : List Token) (u : Token) :
    AfterSemicolon (tokens ++ [u]) ↔ u = .semicolon ∨ (u = .blank ∧ AfterSemicolon tokens) := by
  simp only [AfterSemicolon, endsIn_snoc (t := .semicolon) (by decide)]
  constructor
  · rintro ⟨front, ⟨here, -⟩ | ⟨blank, before⟩⟩
    · exact .inl here
    · exact .inr ⟨blank, front, before⟩
  · rintro (here | ⟨blank, front, before⟩)
    · exact ⟨tokens, .inl ⟨here, rfl⟩⟩
    · exact ⟨front, .inr ⟨blank, before⟩⟩

/-- One more token closes a trigger if it is its `END`, or a blank behind that. -/
theorem closesTrigger_snoc (tokens : List Token) (u : Token) :
    ClosesTrigger (tokens ++ [u]) ↔
      (u = .closing ∧ AfterSemicolon tokens) ∨ (u = .blank ∧ ClosesTrigger tokens) := by
  simp only [ClosesTrigger, endsIn_snoc (t := .closing) (by decide)]
  constructor
  · rintro ⟨front, ⟨here, rfl⟩ | ⟨blank, before⟩, after⟩
    · exact .inl ⟨here, after⟩
    · exact .inr ⟨blank, front, before, after⟩
  · rintro (⟨here, after⟩ | ⟨blank, front, before, after⟩)
    · exact ⟨tokens, .inl ⟨here, rfl⟩, after⟩
    · exact ⟨front, .inr ⟨blank, before⟩, after⟩

theorem not_afterSemicolon_nil : ¬ AfterSemicolon [] := by
  rintro ⟨front, gap, empty, -⟩
  simp at empty

theorem not_closesTrigger_nil : ¬ ClosesTrigger [] := by
  rintro ⟨front, ⟨gap, empty, -⟩, -⟩
  simp at empty

namespace State

/-- The state behind some tokens. -/
def run (state : State) (tokens : List Token) : State :=
  tokens.foldl next state

theorem run_append (state : State) (a b : List Token) :
    state.run (a ++ b) = (state.run a).run b := by
  simp [run]

theorem run_of_stays {state : State} {tokens : List Token}
    (stays : ∀ t ∈ tokens, state.next t = state) : state.run tokens = state := by
  induction tokens with
  | nil => rfl
  | cons t more ih =>
      have here := stays t (by simp)
      have rest := ih fun u inside => stays u (by simp [inside])
      calc state.run (t :: more) = (state.next t).run more := rfl
        _ = state := by rw [here, rest]

/-- Behind the beginning of a trigger the reader is in its body. -/
theorem run_opensTrigger {tokens : List Token} (opens : OpensTrigger tokens) :
    State.invalid.run tokens = .trigger := by
  obtain ⟨lead, plan, options, rfl, blank, explained, optional⟩ := opens
  have leading : State.invalid.run lead = .invalid := by
    apply run_of_stays
    intro t inside
    rw [blank t inside]
    rfl
  have planned : (State.invalid.run plan).next .create = .create := by
    rcases explained with rfl | ⟨more, rfl, plain⟩
    · rfl
    · have stays : State.explain.run more = .explain := by
        apply run_of_stays
        intro t inside
        rcases plain t inside with rfl | rfl <;> rfl
      exact congrArg (next · .create) stays
  have created : State.create.run options = .create := by
    apply run_of_stays
    intro t inside
    rcases optional t inside with rfl | rfl <;> rfl
  calc State.invalid.run (lead ++ (plan ++ .create :: (options ++ [.trigger])))
      = ((((State.invalid.run lead).run plan).next .create).run options).next .trigger := by
        simp [run]
    _ = .trigger := by rw [leading, planned, created]; rfl

/-- In the body of a trigger the state says whether the last token was a semicolon, or `END`
behind one. -/
theorem run_body {tokens : List Token}
    (goes_on : ∀ front rest, tokens = front ++ .semicolon :: rest → ¬ ClosesTrigger front) :
    (State.trigger.run tokens = .trigger ∧ ¬ AfterSemicolon tokens ∧ ¬ ClosesTrigger tokens) ∨
      (State.trigger.run tokens = .semicolon ∧ AfterSemicolon tokens ∧ ¬ ClosesTrigger tokens) ∨
        (State.trigger.run tokens = .closing ∧ ¬ AfterSemicolon tokens ∧
          ClosesTrigger tokens) := by
  induction tokens using List.reverseRecOn with
  | nil => exact .inl ⟨rfl, not_afterSemicolon_nil, not_closesTrigger_nil⟩
  | append_singleton tokens u ih =>
      have before := ih fun front rest same => goes_on front (rest ++ [u]) (by simp [same])
      have last : u = .semicolon → ¬ ClosesTrigger tokens := by
        rintro rfl
        exact goes_on tokens [] rfl
      rw [run_append, afterSemicolon_snoc, closesTrigger_snoc]
      rcases before with ⟨state, not_after, open_still⟩ | ⟨state, after, open_still⟩ |
        ⟨state, not_after, closed⟩
      · rw [state]
        cases u <;> simp [run, next, not_after, open_still]
      · rw [state]
        cases u <;> simp [run, next, after, open_still]
      · rw [state]
        cases u <;> simp [run, next, not_after, closed] at last ⊢

/-- A semicolon ends the statement of a trigger if `END` stands in front of it, behind another
semicolon, and otherwise not. -/
theorem run_body_ends {tokens : List Token}
    (goes_on : ∀ front rest, tokens = front ++ .semicolon :: rest → ¬ ClosesTrigger front) :
    (State.trigger.run tokens).next .semicolon = .start ↔ ClosesTrigger tokens := by
  rcases run_body goes_on with ⟨state, -, closed⟩ | ⟨state, -, closed⟩ | ⟨state, -, closed⟩
  all_goals
    rw [state]
    simp [next, closed]

end State

end SqlDriver.Script
