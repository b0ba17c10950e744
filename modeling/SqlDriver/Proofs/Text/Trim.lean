/-
# SqlDriver.Proofs.Text.Trim -- what trimming takes away, and what a line is

`exists_trim`: a text is what trimming leaves of it between two runs of blanks, and
`bare_trim`: what it leaves neither begins nor ends with a blank.  `lines_of_line`
and `lines_append_newline` say what the lines of a text are, newline by newline.
`untilNul_eq_self` and `untilNul_append`: a text without a NUL is not cut.
-/
import Mathlib.Data.List.DropRight
import SqlDriver.Text.Blank

namespace SqlDriver.Text

set_option autoImplicit false

/-! ## Blanks at the ends -/

/-- Only blanks. -/
def AllBlank (s : List Char) : Prop :=
  ∀ c ∈ s, isBlank c

@[simp] theorem allBlank_nil : AllBlank [] := by
  simp [AllBlank]

theorem allBlank_append {a b : List Char} : AllBlank (a ++ b) ↔ AllBlank a ∧ AllBlank b :=
  List.forall_mem_append

/-- The text neither begins nor ends with a blank. -/
structure Bare (s : List Char) : Prop where
  first : ∀ c ∈ s.head?, isBlank c = false
  last : ∀ c ∈ s.getLast?, isBlank c = false

theorem exists_trimStart (s : List Char) : ∃ front, AllBlank front ∧ s = front ++ trimStart s :=
  ⟨s.takeWhile isBlank, fun _ => List.mem_takeWhile_imp, List.takeWhile_append_dropWhile.symm⟩

theorem exists_trimEnd (s : List Char) : ∃ back, AllBlank back ∧ s = trimEnd s ++ back :=
  ⟨s.rtakeWhile isBlank, fun _ => List.mem_rtakeWhile_imp, List.rdropWhile_append_rtakeWhile.symm⟩

theorem exists_trim (s : List Char) :
    ∃ front back, AllBlank front ∧ AllBlank back ∧ s = front ++ trim s ++ back := by
  obtain ⟨front, blankFront, parts⟩ := exists_trimStart s
  obtain ⟨back, blankBack, rest⟩ := exists_trimEnd (trimStart s)
  exact ⟨front, back, blankFront, blankBack, by rw [List.append_assoc, trim, ← rest, ← parts]⟩

theorem first_trimStart (s : List Char) : ∀ c ∈ (trimStart s).head?, isBlank c = false := by
  intro c first
  have there := List.head?_dropWhile_not isBlank s
  rw [show (s.dropWhile isBlank).head? = some c from first] at there
  exact there

theorem last_trimEnd (s : List Char) : ∀ c ∈ (trimEnd s).getLast?, isBlank c = false := by
  intro c last
  rw [trimEnd, List.getLast?_reverse] at last
  exact first_trimStart s.reverse c last

theorem trimStart_eq_self {s : List Char} (first : ∀ c ∈ s.head?, isBlank c = false) :
    trimStart s = s := by
  cases s with
  | nil => rfl
  | cons c r => simp [trimStart, first c rfl]

theorem trimEnd_eq_self {s : List Char} (last : ∀ c ∈ s.getLast?, isBlank c = false) :
    trimEnd s = s := by
  have reversed := trimStart_eq_self (s := s.reverse) (by simpa using last)
  rw [trimStart] at reversed
  rw [trimEnd, reversed, List.reverse_reverse]

/-- Trimming the end of a text leaves its first character, unless it leaves nothing. -/
theorem first_trimEnd {s : List Char} (first : ∀ c ∈ s.head?, isBlank c = false) :
    ∀ c ∈ (trimEnd s).head?, isBlank c = false := by
  intro c there
  obtain ⟨back, -, parts⟩ := exists_trimEnd s
  refine first c ?_
  rw [parts, List.head?_append, Option.mem_def.mp there]
  rfl

/-- Trimming the front stops at a character that is no blank. -/
theorem trimStart_append_cons {c : Char} (dark : isBlank c = false) (s r : List Char) :
    trimStart (s ++ c :: r) = trimStart s ++ c :: r := by
  rw [trimStart, List.dropWhile_append, List.dropWhile_cons_of_neg (by simp [dark])]
  split
  · next nothing =>
      rw [trimStart, List.isEmpty_iff.mp nothing]
      rfl
  · rfl

/-- Trimming the end stops at a character that is no blank. -/
theorem trimEnd_append_cons {c : Char} (dark : isBlank c = false) (s r : List Char) :
    trimEnd (s ++ c :: r) = s ++ c :: trimEnd r := by
  have turned : (s ++ c :: r).reverse = r.reverse ++ c :: s.reverse := by simp
  rw [trimEnd, turned]
  exact (congrArg List.reverse (trimStart_append_cons dark ..)).trans (by simp [trimStart, trimEnd])

theorem bare_trim (s : List Char) : Bare (trim s) :=
  ⟨first_trimEnd (first_trimStart s), last_trimEnd _⟩

theorem Bare.trim_eq_self {s : List Char} (bare : Bare s) : trim s = s := by
  rw [trim, trimStart_eq_self bare.first, trimEnd_eq_self bare.last]

/-- Trimming takes the blanks around a text that is bare, and no more. -/
theorem trim_between {front s back : List Char} (blankFront : AllBlank front)
    (blankBack : AllBlank back) (bare : Bare s) : trim (front ++ s ++ back) = s := by
  have start (t : List Char) : trimStart (front ++ t) = trimStart t :=
    List.dropWhile_append_of_pos blankFront
  have finish : trimEnd (s ++ back) = s := by
    have turned : ∀ c ∈ back.reverse, isBlank c := by
      intro c inside
      exact blankBack c (List.mem_reverse.mp inside)
    rw [trimEnd, List.reverse_append, List.dropWhile_append_of_pos turned]
    exact trimEnd_eq_self bare.last
  rw [trim, List.append_assoc, start]
  cases s with
  | nil =>
      have nothing : trimStart back = [] := List.dropWhile_eq_nil_iff.mpr blankBack
      rw [List.nil_append, nothing]
      rfl
  | cons c r =>
      have kept : trimStart (c :: r ++ back) = c :: r ++ back := by
        refine trimStart_eq_self ?_
        intro d first
        exact bare.first d first
      rw [kept, finish]

/-- Trimming leaves nothing of blanks only. -/
theorem trim_eq_nil_iff {s : List Char} : trim s = [] ↔ AllBlank s := by
  constructor
  · intro nothing
    obtain ⟨front, back, blankFront, blankBack, parts⟩ := exists_trim s
    rw [parts, nothing, List.append_nil]
    exact allBlank_append.mpr ⟨blankFront, blankBack⟩
  · intro blank
    have start : trimStart s = [] := List.dropWhile_eq_nil_iff.mpr blank
    rw [trim, start]
    rfl

/-! ## Lines -/

/-- A text without a newline is one line. -/
theorem lines_of_line {line : List Char} (single : '\n' ∉ line) : lines line = [line] := by
  induction line with
  | nil => rfl
  | cons c r ih =>
      simp only [List.mem_cons, not_or] at single
      rw [lines, if_neg fun newline => single.1 newline.symm, ih single.2]

/-- The first newline ends the first line. -/
theorem lines_append_newline {line : List Char} (single : '\n' ∉ line) (r : List Char) :
    lines (line ++ '\n' :: r) = line :: lines r := by
  induction line with
  | nil => simp [lines]
  | cons c l ih =>
      simp only [List.mem_cons, not_or] at single
      rw [List.cons_append, lines, if_neg fun newline => single.1 newline.symm, ih single.2]

/-- A text is one line, or a line, a newline and more lines. -/
theorem line_or_more (s : List Char) :
    '\n' ∉ s ∨ ∃ line r, '\n' ∉ line ∧ s = line ++ '\n' :: r := by
  by_cases newline : '\n' ∈ s
  · obtain ⟨line, r, parts, single⟩ := List.eq_append_cons_of_mem newline
    exact .inr ⟨line, r, single, parts⟩
  · exact .inl newline

/-- Induction over the lines of a text. -/
theorem lines_induction {motive : List Char → Prop}
    (one : ∀ line, '\n' ∉ line → motive line)
    (more : ∀ line r, '\n' ∉ line → motive r → motive (line ++ '\n' :: r)) (s : List Char) :
    motive s := by
  obtain single | ⟨line, r, single, parts⟩ := line_or_more s
  · exact one s single
  · rw [parts]
    exact more line r single (lines_induction one more r)
termination_by s.length
decreasing_by
  rw [parts, List.length_append, List.length_cons]
  omega

/-! ## Texts up to a NUL -/

theorem untilNul_append {s : List Char} (clean : '\x00' ∉ s) (t : List Char) :
    untilNul (s ++ t) = s ++ untilNul t :=
  List.takeWhile_append_of_pos fun c inside => by
    have other : c ≠ '\x00' := by
      rintro rfl
      exact clean inside
    simpa using other

theorem untilNul_eq_self {s : List Char} (clean : '\x00' ∉ s) : untilNul s = s := by
  simpa [untilNul] using untilNul_append clean []

theorem not_mem_untilNul (s : List Char) : '\x00' ∉ untilNul s := fun inside => by
  have kept := List.mem_takeWhile_imp inside
  simp at kept

end SqlDriver.Text
