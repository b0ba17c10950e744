/-
# SqlDriver.Proofs.Script.Speaking -- which statements of a script hold none

A statement that the splitter hands out may say nothing to the engine all the same: the
splitter drops a chunk of blank lines and line comments, and knows no comments between
`/*` and `*/` and no byte order mark.  Nothing else is missed (`exists_masked`): in a
statement that is `Wordless`, such a comment or mark stands behind blanks and line comments
alone, for blanks and line comments are dropped and a semicolon behind them is a cut.
-/
import SqlDriver.Proofs.Engine.Wordless
import SqlDriver.Proofs.Script.Whole

namespace SqlDriver.Script

set_option autoImplicit false

open SqlDriver.Text
open SqlDriver.Engine (Wordless)

/-! ## Blanks and line comments -/

/-- Blanks, and line comments with their newlines. -/
inductive Prelude : List Char → Prop where
  | nil : Prelude []
  | blanks {c : Char} {run r : List Char} (begins : isSpace c)
      (goes : ∀ d ∈ run, Engine.Token.continuesBlank d) : Prelude r → Prelude (c :: (run ++ r))
  | remark {line run r : List Char} (single : '\n' ∉ line)
      (goes : ∀ d ∈ run, Engine.Token.continuesBlank d) : Prelude r →
      Prelude ('-' :: '-' :: (line ++ '\n' :: (run ++ r)))

/-- A comment between `/*` and `*/`, or a byte order mark. -/
def Masked (s : List Char) : Prop :=
  ['/', '*'] <+: s ∨ [Engine.byteOrderMark] <+: s

/-- A text that says nothing is blanks and line comments up to its end, or up to a last
line comment, a semicolon, or something that only the engine passes over. -/
theorem exists_prelude {s : List Char} (wordless : Wordless s) :
    ∃ front rest, s = front ++ rest ∧ Prelude front ∧
      (rest = [] ∨ (∃ line, '\n' ∉ line ∧ rest = '-' :: '-' :: line) ∨ (∃ r, rest = ';' :: r) ∨
        Masked rest) := by
  induction wordless with
  | nil => exact ⟨[], [], rfl, .nil, .inl rfl⟩
  | blanks begins goes _ ih =>
      obtain ⟨front, rest, rfl, prelude, stops⟩ := ih
      exact ⟨_, rest, by simp, .blanks begins goes prelude, stops⟩
  | mark _ _ => exact ⟨[], _, rfl, .nil, .inr (.inr (.inr (.inr (by simp))))⟩
  | semicolon _ _ => exact ⟨[], _, rfl, .nil, .inr (.inr (.inl ⟨_, rfl⟩))⟩
  | remark single goes _ ih =>
      obtain ⟨front, rest, rfl, prelude, stops⟩ := ih
      exact ⟨_, rest, by simp, .remark single goes prelude, stops⟩
  | lastRemark single => exact ⟨[], _, rfl, .nil, .inr (.inl ⟨_, single, rfl⟩)⟩
  | block _ _ _ => exact ⟨[], _, rfl, .nil, .inr (.inr (.inr (.inl (by simp))))⟩
  | lastBlock _ => exact ⟨[], _, rfl, .nil, .inr (.inr (.inr (.inl (by simp))))⟩

theorem isBlank_of_continuesBlank {c : Char} (continues : Engine.Token.continuesBlank c) :
    isBlank c := by
  simp only [Engine.Token.continuesBlank, isSpace, Bool.or_eq_true, decide_eq_true_eq] at continues
  obtain ((((rfl | rfl) | rfl) | rfl) | rfl) | rfl := continues <;> decide

theorem allBlank_of_continues {run : List Char}
    (goes : ∀ d ∈ run, Engine.Token.continuesBlank d) : AllBlank run :=
  fun d inside => isBlank_of_continuesBlank (goes d inside)

theorem allBlank_cons_of_continues {c : Char} {run : List Char} (begins : isSpace c)
    (goes : ∀ d ∈ run, Engine.Token.continuesBlank d) : AllBlank (c :: run) := by
  refine allBlank_of_continues fun d inside => ?_
  obtain rfl | later := List.mem_cons.mp inside
  · simp [Engine.Token.continuesBlank, begins]
  · exact goes d later

/-! ## What the splitter makes of them -/

theorem Prelude.idle {front : List Char} (prelude : Prelude front) {x : Scan} (idle : x.Idle) :
    (x.run front).Idle := by
  induction prelude generalizing x with
  | nil => exact idle
  | @blanks c run r begins goes _ ih =>
      rw [← List.cons_append, Scan.run_append]
      exact ih (idle.blanks (allBlank_cons_of_continues begins goes))
  | @remark line run r single goes _ ih =>
      have parts : '-' :: '-' :: (line ++ '\n' :: (run ++ r)) =
          ('-' :: '-' :: line ++ ['\n']) ++ (run ++ r) := by simp
      rw [parts, Scan.run_append, Scan.run_append]
      exact ih ((idle.remark single).blanks (allBlank_of_continues goes))

theorem Quiet.behind {line s : List Char} (quiet : Quiet line) (blank : AllBlank s) :
    Quiet (s ++ line) := by
  obtain also | remark := quiet
  · exact .inl (allBlank_append.mpr ⟨blank, also⟩)
  · obtain ⟨front, rest, blank', rfl⟩ := (isRemark_iff line).mp remark
    refine .inr ((isRemark_iff _).mpr ⟨s ++ front, rest, allBlank_append.mpr ⟨blank, blank'⟩, ?_⟩)
    simp

theorem Remarks.behind {s gap : List Char} (silent : Remarks s) (blank : AllBlank gap) :
    Remarks (gap ++ s) := by
  induction gap using lines_induction with
  | one g single =>
      obtain single' | ⟨line, r, single', rfl⟩ := line_or_more s
      · have quiet := (remarks_of_line single').mp silent
        exact (remarks_of_line (by simp [single, single'])).mpr (quiet.behind blank)
      · obtain ⟨quiet, rest⟩ := (remarks_append_newline single' r).mp silent
        rw [← List.append_assoc]
        exact (remarks_append_newline (by simp [single, single']) r).mpr ⟨quiet.behind blank, rest⟩
  | more g r single ih =>
      obtain ⟨first, rest⟩ := allBlank_append.mp blank
      rw [List.append_assoc, List.cons_append]
      exact (remarks_append_newline single _).mpr
        ⟨.inl first, ih fun c inside => rest c (List.mem_cons_of_mem _ inside)⟩

theorem isRemark_dashes (line : List Char) : IsRemark ('-' :: '-' :: line) :=
  (isRemark_iff _).mpr ⟨[], line, allBlank_nil, rfl⟩

theorem Prelude.remarks {front s : List Char} (prelude : Prelude front) (silent : Remarks s) :
    Remarks (front ++ s) := by
  induction prelude with
  | nil => exact silent
  | @blanks c run r begins goes _ ih =>
      rw [← List.cons_append, List.append_assoc]
      exact ih.behind (allBlank_cons_of_continues begins goes)
  | @remark line run r single goes _ ih =>
      have parts : '-' :: '-' :: (line ++ '\n' :: (run ++ r)) ++ s =
          ('-' :: '-' :: line) ++ '\n' :: (run ++ (r ++ s)) := by simp
      rw [parts]
      exact (remarks_append_newline (by simp [single]) _).mpr
        ⟨.inr (isRemark_dashes line), ih.behind (allBlank_of_continues goes)⟩

/-- A statement of a script that says nothing to the engine holds a comment between `/*`
and `*/` or a byte order mark, behind blanks and line comments alone. -/
theorem exists_masked {script s : List Char} (clean : '\x00' ∉ script)
    (returned : s ∈ split script) (wordless : Wordless s) :
    ∃ front rest, s = front ++ rest ∧ Prelude front ∧ Masked rest := by
  obtain ⟨blanks, blank, uncut, -, speaks, within⟩ := exists_front returned
  have clean' : '\x00' ∉ blanks ++ s := fun nul => clean (within nul)
  have none : NoCut s := noCut_of_blanks clean' blank uncut
  obtain ⟨front, rest, rfl, prelude, stops⟩ := exists_prelude wordless
  refine ⟨front, rest, rfl, prelude, ?_⟩
  obtain rfl | ⟨line, single, rfl⟩ | ⟨r, rfl⟩ | masked := stops
  · exact absurd (prelude.remarks (remarks_of_blank allBlank_nil)) speaks
  · refine absurd (prelude.remarks ((remarks_of_line (by simp [single])).mpr ?_)) speaks
    exact .inr (isRemark_dashes line)
  · -- a semicolon behind blanks and line comments is a cut
    have begins : front ++ [';'] <+: front ++ ';' :: r := ⟨r, by simp⟩
    refine absurd ?_ (none front begins)
    rw [isComplete_of_clean fun nul => clean' (List.mem_append_right _ (begins.subset nul)),
      Scan.run_append]
    exact (prelude.idle Scan.idle_initial).semicolon
  · exact masked

end SqlDriver.Script
