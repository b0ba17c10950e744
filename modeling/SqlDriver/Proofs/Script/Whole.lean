/-
# SqlDriver.Proofs.Script.Whole -- no statement of a script hides another

A statement is what is left of a chunk, and the chunk was not complete at any
semicolon inside.  `noCut_of_blanks` carries that over to the text without the blanks
in front, which are tokens to the reader, some of them: with the blanks in front the
reader completes a statement no later than without them.  `remarks_or_idle` deals
with the semicolon at the end: what stands in front of it is comment only if the
whole text is, since otherwise that semicolon would have been a cut.

`statement_is_whole` puts the two together: a statement of a script has no cut, and
splitting it gives one statement.
-/
import SqlDriver.Proofs.Script.Division
import SqlDriver.Proofs.Script.Reading

namespace SqlDriver.Script

set_option autoImplicit false

open SqlDriver.Text

/-! ## Texts without a NUL -/

theorem isComplete_of_clean {text : List Char} (clean : '\x00' ∉ text) :
    isComplete text = (Scan.initial.run text).accepts := by
  rw [isComplete, untilNul_eq_self clean]

theorem accepts_iff {front rest : List Char} {x : Scan} (there : Scan.initial.run front = x)
    (clean : '\x00' ∉ front ++ rest) : isComplete (front ++ rest) = (x.run rest).accepts := by
  rw [isComplete_of_clean clean, Scan.run_append, there]

/-! ## Blanks in front -/

/-- A text has no cut that it does not have behind blanks.  Where the blanks leave the
reader at its start, it reads the same; otherwise a statement has begun, and the
first semicolon of the text that is read as one completes it. -/
theorem noCut_of_blanks {front s : List Char} (clean : '\x00' ∉ front ++ s)
    (blank : AllBlank front) (none : NoCut (front ++ s)) : NoCut s := by
  intro p inside complete
  have clean' {q : List Char} (within : q ++ [';'] <+: p ++ [';']) :
      '\x00' ∉ front ++ (q ++ [';']) :=
    fun nul => clean ((List.prefix_append_right_inj front).mpr (within.trans inside) |>.subset nul)
  have uncut {q : List Char} (within : q ++ [';'] <+: p ++ [';']) :
      ¬ ((Scan.initial.run front).run (q ++ [';'])).accepts := by
    rw [← accepts_iff rfl (clean' within), ← List.append_assoc]
    refine none (front ++ q) ?_
    rw [List.append_assoc]
    exact (List.prefix_append_right_inj front).mpr (within.trans inside)
  have accepted : (Scan.initial.run (p ++ [';'])).accepts := by
    rw [← isComplete_of_clean fun nul => clean' List.prefix_rfl (List.mem_append_right _ nul)]
    exact complete
  have idle := Scan.idle_initial.blanks blank
  obtain start | past := idle.2
  · exact uncut List.prefix_rfl (by rwa [start])
  · obtain ⟨q, within, reads⟩ :=
      Scan.exists_semicolon (Scan.state_of_accepts accepted) (by decide)
    have shape : (Scan.initial.run front).mode.shape = Scan.initial.mode.shape := by
      obtain plain | ⟨seen, word⟩ := idle.1
      · rw [plain]
        rfl
      · rw [word]
        rfl
    obtain ⟨first, earlier, ended⟩ := past.ends (Scan.run_reads shape q |>.trans reads)
    exact uncut (earlier.trans within) ended

/-! ## Remarks -/

theorem isRemark_iff (line : List Char) :
    IsRemark line ↔ ∃ front rest, AllBlank front ∧ line = front ++ '-' :: '-' :: rest := by
  constructor
  · rintro ⟨rest, begins⟩
    obtain ⟨front, back, blank, -, parts⟩ := exists_trim line
    refine ⟨front, rest ++ back, blank, ?_⟩
    rw [← begins] at parts
    simpa using parts
  · rintro ⟨front, rest, blank, rfl⟩
    have start : trimStart (front ++ '-' :: '-' :: rest) = '-' :: '-' :: rest := by
      rw [trimStart, List.dropWhile_append_of_pos blank]
      rfl
    obtain ⟨back, blankBack, parts⟩ := exists_trimEnd ('-' :: '-' :: rest)
    have dark : ¬ isBlank '-' := by decide
    rw [IsRemark, trim, start]
    -- neither dash can be among the blanks at the end
    rcases kept : trimEnd ('-' :: '-' :: rest) with _ | ⟨a, _ | ⟨b, more⟩⟩ <;> rw [kept] at parts
    · obtain rfl : '-' :: '-' :: rest = back := parts
      exact absurd (blankBack '-' (by simp)) dark
    · obtain rfl : '-' :: rest = back := (List.cons.inj parts).2
      exact absurd (blankBack '-' (by simp)) dark
    · simp only [List.cons_append, List.cons_eq_cons] at parts
      rw [← parts.1, ← parts.2.1]
      exact ⟨more, rfl⟩

/-- The line says nothing. -/
def Quiet (line : List Char) : Prop :=
  AllBlank line ∨ IsRemark line

theorem IsRemark.append {line : List Char} (remark : IsRemark line) (s : List Char) :
    IsRemark (line ++ s) := by
  obtain ⟨front, rest, blank, rfl⟩ := (isRemark_iff line).mp remark
  exact (isRemark_iff _).mpr ⟨front, rest ++ s, blank, by simp⟩

theorem Quiet.append {line s : List Char} (quiet : Quiet line) (blank : AllBlank s) :
    Quiet (line ++ s) :=
  quiet.imp (fun also => allBlank_append.mpr ⟨also, blank⟩) fun remark => remark.append s

theorem remarks_of_line {line : List Char} (single : '\n' ∉ line) : Remarks line ↔ Quiet line := by
  simp [Remarks, lines_of_line single, Quiet]

theorem remarks_append_newline {line : List Char} (single : '\n' ∉ line) (r : List Char) :
    Remarks (line ++ '\n' :: r) ↔ Quiet line ∧ Remarks r := by
  simp [Remarks, lines_append_newline single, Quiet]

theorem remarks_of_blank {s : List Char} (blank : AllBlank s) : Remarks s := by
  induction s using lines_induction with
  | one line single => exact (remarks_of_line single).mpr (.inl blank)
  | more line r single ih =>
      obtain ⟨first, rest⟩ := allBlank_append.mp blank
      exact (remarks_append_newline single r).mpr
        ⟨.inl first, ih fun c inside => rest c (List.mem_cons_of_mem _ inside)⟩

theorem Remarks.append {s gap : List Char} (silent : Remarks s) (blank : AllBlank gap) :
    Remarks (s ++ gap) := by
  induction s using lines_induction with
  | one line single =>
      have quiet := (remarks_of_line single).mp silent
      obtain single' | ⟨g, r, single', rfl⟩ := line_or_more gap
      · exact (remarks_of_line (by simp [single, single'])).mpr (quiet.append blank)
      · obtain ⟨first, rest⟩ := allBlank_append.mp blank
        rw [← List.append_assoc]
        exact (remarks_append_newline (by simp [single, single']) r).mpr
          ⟨quiet.append first, remarks_of_blank fun c inside =>
            rest c (List.mem_cons_of_mem _ inside)⟩
  | more line r single ih =>
      obtain ⟨quiet, silent⟩ := (remarks_append_newline single r).mp silent
      rw [List.append_assoc, List.cons_append]
      exact (remarks_append_newline single _).mpr ⟨quiet, ih silent⟩

theorem Scan.Idle.line {x : Scan} (idle : Idle x) {line : List Char} (quiet : Quiet line)
    (single : '\n' ∉ line) : Idle (x.run (line ++ ['\n'])) := by
  obtain blank | remark := quiet
  · exact idle.blanks (allBlank_append.mpr ⟨blank, by simp [AllBlank, isBlank]⟩)
  · obtain ⟨front, rest, blank, rfl⟩ := (isRemark_iff line).mp remark
    rw [List.append_assoc, run_append]
    exact (idle.blanks blank).remark fun newline => single (by simp [newline])

/-- Behind a text of comments a semicolon is part of the last comment, or read as one. -/
theorem remarks_or_idle {s : List Char} (silent : Remarks s) {x : Scan} (idle : x.Idle) :
    Remarks (s ++ [';']) ∨ (x.run s).Idle := by
  induction s using lines_induction generalizing x with
  | one line single =>
      obtain blank | remark := (remarks_of_line single).mp silent
      · exact .inr (idle.blanks blank)
      · exact .inl ((remarks_of_line (by simp [single])).mpr (.inr (remark.append _)))
  | more line r single ih =>
      obtain ⟨quiet, silent⟩ := (remarks_append_newline single r).mp silent
      obtain more | idle := ih silent (idle.line quiet single)
      · rw [List.append_assoc, List.cons_append]
        exact .inl ((remarks_append_newline single _).mpr ⟨quiet, more⟩)
      · rw [← Scan.run_append, List.append_assoc] at idle
        exact .inr idle

/-- What is left of a text without a cut says something if the text does. -/
theorem not_remarks_body {s : List Char} (clean : '\x00' ∉ s) (none : NoCut s) (bare : Bare s)
    (speaks : ¬ Remarks s) : ¬ Remarks (body s) := by
  rw [body, dropSemicolon, bare.trim_eq_self]
  split
  · next ended =>
    obtain ⟨t, rfl⟩ := List.getLast?_eq_some_iff.mp ended
    rw [List.dropLast_concat]
    intro silent
    obtain ⟨gap, blank, parts⟩ := exists_trimEnd t
    have silent : Remarks t := by
      rw [parts]
      exact silent.append blank
    obtain whole | idle := remarks_or_idle silent Scan.idle_initial
    · exact speaks whole
    · refine none t List.prefix_rfl ?_
      rw [isComplete_of_clean clean, Scan.run_append]
      exact idle.semicolon
  · rwa [trimEnd_eq_self bare.last]

/-! ## Statements of a script -/

/-- A chunk that ends at a semicolon loses that semicolon. -/
theorem Layout.kept_within {l : Layout} {front : List Char} (same : l.text = front ++ [';']) :
    l.front ++ l.kept <+: front := by
  have begins : l.front ++ l.kept <+: front ++ [';'] := by
    rw [← same, Layout.text, List.append_assoc, List.append_assoc]
    exact List.prefix_append ..
  obtain whole | earlier := List.prefix_concat_iff.mp begins
  · exfalso
    have nothing : l.gap ++ ((if l.ended then [';'] else []) ++ l.back) = [] := by
      rw [Layout.text, whole, List.append_assoc, List.append_assoc] at same
      exact List.append_right_eq_self.mp same
    have kept_last : l.kept.getLast? ≠ some ';' := by
      refine (l.taken ?_).2
      cases ended : l.ended with
      | false => rfl
      | true => simp [ended] at nothing
    have last : (l.front ++ l.kept).getLast? = some ';' := by
      rw [whole, List.getLast?_concat]
    rcases kept : l.kept.getLast? with _ | c
    · rw [List.getLast?_eq_none_iff.mp kept, List.append_nil] at last
      have blank := l.blankFront ';' (List.mem_of_getLast? last)
      exact absurd blank (by decide)
    · rw [List.getLast?_append, kept] at last
      exact kept_last (kept.trans last)
  · exact earlier

/-- A statement is what is left of a chunk, and with the blanks that stand in front of
it there it has no cut. -/
theorem exists_front {script s : List Char} (returned : s ∈ split script) :
    ∃ front, AllBlank front ∧ NoCut (front ++ s) ∧ Bare s ∧ ¬ Remarks s ∧ front ++ s ⊆ script := by
  obtain ⟨inside, speaks⟩ := List.mem_filter.mp returned
  obtain ⟨chunk, there, rfl⟩ := List.mem_map.mp inside
  obtain ⟨l, whole, kept⟩ := exists_layout chunk
  obtain ⟨-, cut, last, parts, ends, rest⟩ := chunks_divides script
  have begins : l.front ++ l.kept <+: chunk := by
    rw [← whole, Layout.text, List.append_assoc, List.append_assoc]
    exact List.prefix_append ..
  have none : NoCut (l.front ++ l.kept) := by
    rw [parts] at there
    obtain there | there := List.mem_append.mp there
    · obtain ⟨front, same, -, none⟩ := ends chunk there
      exact none.of_prefix (Layout.kept_within (whole.trans same))
    · obtain rfl := List.mem_singleton.mp there
      exact rest.of_prefix begins
  refine ⟨l.front, l.blankFront, kept ▸ none, kept ▸ l.bare, ?_, fun c inside => ?_⟩
  · simpa [← isCommentOnly_iff] using speaks
  · rw [← chunks_flatten script]
    exact List.mem_flatten.mpr ⟨chunk, there, begins.subset (kept ▸ inside)⟩

/-- A statement of a script has no semicolon that completes what stands up to it, and
splitting it gives one statement. -/
theorem statement_is_whole (script s : List Char) (clean : '\x00' ∉ script)
    (returned : s ∈ split script) : NoCut s ∧ split s = [body s] := by
  obtain ⟨front, blank, none, bare, speaks, within⟩ := exists_front returned
  have clean : '\x00' ∉ front ++ s := fun nul => clean (within nul)
  have none : NoCut s := noCut_of_blanks clean blank none
  have one : chunks s = [s] :=
    divides_unique (chunks_divides s) ⟨by simp, [], s, rfl, by simp, none⟩
  have speaks := not_remarks_body (fun nul => clean (List.mem_append_right _ nul)) none bare speaks
  refine ⟨none, ?_⟩
  simp [split, one, mt (isCommentOnly_iff (body s)).mp speaks]

/-- A trigger with a semicolon in its body, behind a statement that stands behind a
blank beyond ASCII. -/
theorem trigger_is_whole :
    let trigger := "CREATE TRIGGER a AFTER INSERT ON t BEGIN DELETE FROM u; END".toList
    let script := "\u2003SELECT 1;".toList ++ trigger ++ "; -- end".toList
    '\x00' ∉ script ∧ trigger ∈ split script ∧ NoCut trigger ∧ split trigger = [body trigger] := by
  intro trigger script
  have clean : '\x00' ∉ script := by decide +kernel
  have returned : trigger ∈ split script := by decide +kernel
  exact ⟨clean, returned, statement_is_whole script trigger clean returned⟩

end SqlDriver.Script
