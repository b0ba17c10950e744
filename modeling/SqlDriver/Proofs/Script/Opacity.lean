/-
# SqlDriver.Proofs.Script.Opacity -- what stands in a literal moves no cut

A text that was escaped may hold quotes, semicolons, dashes and newlines.  Between its
quotes the reader sees several literals that touch, and they are to it what one is
(`run_literal`): it stands behind them as it would behind any other literal.  So whether a
text is complete does not depend on what its literals hold, and no semicolon of a literal is
a cut (`noCut_literal`).  What a literal stands in is a statement too, for a quote is
neither blank nor part of a remark (`not_remarks_quote`).

`literal_is_opaque` puts these together for a script with a literal anywhere in it.
-/
import SqlDriver.Proofs.Script.Whole
import SqlDriver.Proofs.Text.Literal

namespace SqlDriver.Script

set_option autoImplicit false

open SqlDriver.Text
open SqlDriver.Literal (doubleQuotes escape)

/-- A text as a literal. -/
def literal (text : List Char) : List Char :=
  '\'' :: (escape text ++ ['\''])

theorem not_mem_literal (text : List Char) : '\x00' ∉ literal text := by
  simp [literal, Literal.not_mem_escape]

/-! ## What the reader makes of a literal -/

theorem State.next_other_idempotent (state : State) :
    (state.next .other).next .other = state.next .other := by
  cases state <;> rfl

namespace Scan

/-- Where a token may begin, a quote opens a literal. -/
theorem step_quote {x : Scan} (reads : x.mode.reads) : x.step '\'' = ⟨.quoted '\'', x.settled⟩ := by
  obtain ⟨mode, state⟩ := x
  cases mode <;> first | rfl | cases reads

theorem step_quoted {c : Char} (other : c ≠ '\'') (state : State) :
    step ⟨.quoted '\'', state⟩ c = ⟨.quoted '\'', state⟩ :=
  if_neg other

/-- A pair of quotes closes a literal and opens one: the reader stays inside, and behind the
end it stands as it would without the pair. -/
theorem run_doubleQuotes (s : List Char) (state : State) : ∃ state' : State,
    run ⟨.quoted '\'', state⟩ (doubleQuotes s) = ⟨.quoted '\'', state'⟩ ∧
      state'.next .other = state.next .other := by
  induction s generalizing state with
  | nil => exact ⟨state, rfl, rfl⟩
  | cons c s ih =>
      by_cases quote : c = '\''
      · subst quote
        obtain ⟨state', ran, same⟩ := ih (state.next .other)
        exact ⟨state', ran, same.trans state.next_other_idempotent⟩
      · obtain ⟨state', ran, same⟩ := ih state
        refine ⟨state', ?_, same⟩
        rw [Literal.doubleQuotes_other quote]
        exact (congrArg (run · _) (step_quoted quote state)).trans ran

/-- Behind a literal the reader stands in one place, whatever the literal holds. -/
theorem run_literal {x : Scan} (reads : x.mode.reads) (text : List Char) :
    x.run (literal text) = ⟨.plain, x.settled.next .other⟩ := by
  obtain ⟨state', ran, same⟩ := run_doubleQuotes (untilNul text) x.settled
  have opened : x.run (literal text) = run (x.step '\'') (escape text ++ ['\'']) := rfl
  rw [opened, step_quote reads, run_append, escape, ran, ← same]
  rfl

end Scan

/-! ## Cuts -/

/-- Inside of a literal nothing is complete. -/
theorem noCut_doubleQuotes {front s : List Char} {state : State} (clean : '\x00' ∉ front ++ s)
    (none : NoCut front) (inside : Scan.initial.run front = ⟨.quoted '\'', state⟩) :
    NoCut (front ++ doubleQuotes s) := by
  induction s generalizing front state with
  | nil => rwa [doubleQuotes, List.append_nil]
  | cons c s ih =>
      by_cases quote : c = '\''
      · subst quote
        have parts : front ++ doubleQuotes ('\'' :: s) =
            front ++ ['\''] ++ ['\''] ++ doubleQuotes s := by
          simp [Literal.doubleQuotes_quote]
        have pair : NoCut (front ++ ['\''] ++ ['\'']) := (none.snoc (by simp)).snoc (by simp)
        have again : Scan.initial.run (front ++ ['\''] ++ ['\'']) =
            ⟨.quoted '\'', state.next .other⟩ := by
          rw [Scan.run_append, Scan.run_append, inside]
          rfl
        rw [parts]
        exact ih (by simpa using clean) pair again
      · have parts : front ++ doubleQuotes (c :: s) = front ++ [c] ++ doubleQuotes s := by
          simp [Literal.doubleQuotes_other quote]
        have still : Scan.initial.run (front ++ [c]) = ⟨.quoted '\'', state⟩ := by
          rw [Scan.run_append, inside]
          exact Scan.step_quoted quote state
        have clean' : '\x00' ∉ front ++ [c] ++ s := by simpa using clean
        rw [parts]
        refine ih clean' (none.snoc ?_) still
        rintro ⟨-, complete⟩
        rw [isComplete_of_clean fun nul => clean' (List.mem_append_left _ nul), still] at complete
        cases complete

theorem noCut_literal {front : List Char} (clean : '\x00' ∉ front) (none : NoCut front)
    (reads : (Scan.initial.run front).mode.reads) (text : List Char) :
    NoCut (front ++ literal text) := by
  have opened : Scan.initial.run (front ++ ['\'']) =
      ⟨.quoted '\'', (Scan.initial.run front).settled⟩ := by
    rw [Scan.run_append]
    exact Scan.step_quote reads
  have parts : front ++ literal text = front ++ ['\''] ++ escape text ++ ['\''] := by
    simp [literal]
  rw [parts]
  refine NoCut.snoc (noCut_doubleQuotes ?_ (none.snoc (by simp)) opened) (by simp)
  simp [clean, not_mem_untilNul]

/-- Behind an earlier part of a script the cuts do not depend on it. -/
theorem chunksFrom_append {seen s : List Char} {cut : List (List Char)} {last : List Char}
    (parts : chunksFrom seen s = cut ++ [last]) (r : List Char) :
    chunksFrom seen (s ++ r) = cut ++ chunksFrom last.reverse r := by
  induction s generalizing seen cut with
  | nil =>
      have parts : [] ++ [seen.reverse] = cut ++ [last] := parts
      obtain ⟨rfl, same⟩ := List.append_inj' parts rfl
      obtain rfl : seen.reverse = last := List.singleton_inj.mp same
      simp
  | cons c s ih =>
      rw [List.cons_append, chunksFrom]
      rw [chunksFrom] at parts
      split at parts
      · next here =>
          rw [if_pos here]
          cases cut with
          | nil =>
              have more := congrArg List.length parts
              obtain ⟨cut', last', tail, -⟩ := chunksFrom_divides [] s noCut_nil
              simp [tail] at more
          | cons chunk cut =>
              obtain ⟨rfl, tail⟩ := List.cons.inj parts
              rw [ih tail, List.cons_append]
      · next here =>
          rw [if_neg here]
          exact ih parts

/-- What follows a text in its chunk, and the chunks behind that, depend only on where the
reader stands behind the text. -/
theorem exists_head (x : Scan) {q : List Char} (clean : '\x00' ∉ q) :
    ∃ head more, head <+: q ∧ ∀ s, '\x00' ∉ s → Scan.initial.run s = x →
      chunksFrom s.reverse q = (s ++ head) :: more := by
  induction q generalizing x with
  | nil => exact ⟨[], [], List.prefix_rfl, fun s _ _ => by simp [chunksFrom]⟩
  | cons c q ih =>
      simp only [List.mem_cons, not_or] at clean
      have complete (s : List Char) (clean' : '\x00' ∉ s) (there : Scan.initial.run s = x) :
          isComplete (c :: s.reverse).reverse = (x.step c).accepts := by
        rw [List.reverse_cons, List.reverse_reverse]
        exact accepts_iff there (by simp [clean', clean.1])
      by_cases here : c = ';' ∧ (x.step c).accepts
      · refine ⟨[c], chunksFrom [] q, by simp, fun s clean' there => ?_⟩
        rw [chunksFrom, complete s clean' there, if_pos (by simpa using here)]
        simp
      · obtain ⟨head, more, inside, chunked⟩ := ih (x.step c) clean.2
        refine ⟨c :: head, more, List.cons_prefix_cons.mpr ⟨rfl, inside⟩, fun s clean' there => ?_⟩
        rw [chunksFrom, complete s clean' there, if_neg (by simpa using here)]
        have stands : Scan.initial.run (s ++ [c]) = x.step c := by
          rw [Scan.run_append, there]
          rfl
        have rest := chunked (s ++ [c]) (by simp [clean', clean.1]) stands
        simpa using rest

/-! ## Where the reader stands in the last chunk -/

/-- Without a cut no statement has ended. -/
theorem NoCut.state_ne_start {text : List Char} (clean : '\x00' ∉ text) (none : NoCut text) :
    (Scan.initial.run text).state ≠ .start := by
  intro start
  obtain ⟨front, inside, -, ended⟩ := Scan.exists_ending start (by decide)
  refine none front inside ?_
  rw [isComplete_of_clean fun nul => clean (inside.subset nul), ended]
  rfl

/-- At a cut the reader stands between tokens, and a statement has just ended. -/
theorem EndsComplete.run {chunk : List Char} (clean : '\x00' ∉ chunk) (ends : EndsComplete chunk) :
    Scan.initial.run chunk = ⟨.plain, .start⟩ := by
  obtain ⟨front, rfl, complete, none⟩ := ends
  rw [isComplete_of_clean clean] at complete
  have start := Scan.state_of_accepts complete
  rw [Scan.run_append] at start ⊢
  obtain before | ⟨-, reads⟩ := Scan.step_start (x := Scan.initial.run front) start
  · exact absurd before (none.state_ne_start fun nul => clean (List.mem_append_left _ nul))
  · have ended := Scan.step_semicolon reads
    exact ended.trans (congrArg (Scan.mk .plain) ((congrArg Scan.state ended).symm.trans start))

/-- Cuts leave the reader where a script begins, so a place in the last chunk is read as it is
in the script. -/
theorem reads_of_chunks {cut : List (List Char)} {last : List Char}
    (clean : '\x00' ∉ cut.flatten) (ends : ∀ chunk ∈ cut, EndsComplete chunk) :
    (Scan.initial.run (cut.flatten ++ last)).mode.reads = (Scan.initial.run last).mode.reads := by
  induction cut with
  | nil => rfl
  | cons chunk cut ih =>
      simp only [List.flatten_cons, List.mem_append, not_or] at clean
      rw [List.flatten_cons, List.append_assoc, Scan.run_append,
        (ends chunk (by simp)).run clean.1,
        Scan.run_reads (x := ⟨.plain, .start⟩) (y := .initial) rfl]
      exact ih clean.2 fun c inside => ends c (List.mem_cons_of_mem _ inside)

/-! ## A literal is said -/

theorem not_quiet_quote {front : List Char} {x : Scan} (idle : x.Idle)
    (reads : (x.run front).mode.reads) (single : '\n' ∉ front) (r : List Char) :
    ¬ Quiet (front ++ '\'' :: r) := by
  rintro (blank | remark)
  · exact absurd (blank '\'' (by simp)) (by decide)
  · obtain ⟨blanks, rest, blank, parts⟩ := (isRemark_iff _).mp remark
    -- both dashes stand in front of the quote, and the reader takes them for a comment
    obtain ⟨line, rfl⟩ : ∃ line, front = blanks ++ '-' :: '-' :: line := by
      obtain ⟨more, rfl, tail⟩ | ⟨more, rfl, tail⟩ := List.append_eq_append_iff.mp parts
      · rcases more with _ | ⟨c, more⟩
        · cases tail
        · obtain rfl : '\'' = c := (List.cons.inj tail).1
          exact absurd (blank '\'' (by simp)) (by decide)
      · rcases more with _ | ⟨a, _ | ⟨b, line⟩⟩
        · cases tail
        · cases tail
        · cases tail
          exact ⟨line, rfl⟩
    have single' : '\n' ∉ line := fun newline => single (by simp [newline])
    rw [Scan.run_append, (idle.blanks blank).dashes single'] at reads
    cases reads

/-- A text with a quote that opens a literal is not a text of remarks. -/
theorem not_remarks_quote {front : List Char} {x : Scan} (idle : x.Idle)
    (reads : (x.run front).mode.reads) (r : List Char) : ¬ Remarks (front ++ '\'' :: r) := by
  induction front using lines_induction generalizing x with
  | one line single =>
      have speaks (rest : List Char) := not_quiet_quote idle reads single rest
      obtain single' | ⟨l, more, single', rfl⟩ := line_or_more r
      · exact mt (remarks_of_line (by simp [single, single'])).mp (speaks r)
      · intro silent
        have parts : line ++ '\'' :: (l ++ '\n' :: more) = (line ++ '\'' :: l) ++ '\n' :: more := by
          simp
        rw [parts] at silent
        exact speaks l ((remarks_append_newline (by simp [single, single']) more).mp silent).1
  | more line rest single ih =>
      intro silent
      rw [List.append_assoc, List.cons_append] at silent
      obtain ⟨quiet, silent⟩ := (remarks_append_newline single _).mp silent
      have parts : line ++ '\n' :: rest = line ++ ['\n'] ++ rest := by simp
      rw [parts, Scan.run_append] at reads
      exact ih (idle.line quiet single) reads silent

/-! ## The statement of a literal -/

theorem dropSemicolon_concat (s : List Char) : dropSemicolon (s ++ [';']) = s := by
  rw [dropSemicolon, if_pos (by simp), List.dropLast_concat]

theorem dropSemicolon_append_quote (s r : List Char) :
    dropSemicolon (s ++ '\'' :: r) = s ++ '\'' :: dropSemicolon r := by
  cases r using List.reverseRecOn with
  | nil => exact if_neg (by simp)
  | append_singleton r c =>
      have parts : s ++ '\'' :: (r ++ [c]) = (s ++ '\'' :: r) ++ [c] := by simp
      by_cases semicolon : c = ';'
      · subst semicolon
        rw [parts, dropSemicolon_concat, dropSemicolon_concat]
      · have kept (t : List Char) : dropSemicolon (t ++ [c]) = t ++ [c] :=
          if_neg (by simpa using semicolon)
        rw [parts, kept, kept, ← parts]

theorem dropSemicolon_within (s : List Char) : dropSemicolon s <+: s := by
  rw [dropSemicolon]
  split
  · exact List.dropLast_prefix s
  · exact List.prefix_rfl

theorem trimEnd_within (s : List Char) : trimEnd s <+: s := by
  obtain ⟨back, -, parts⟩ := exists_trimEnd s
  exact ⟨back, parts.symm⟩

/-- What is left of a chunk with a literal: all of the literal, and what is left in front of it
and behind. -/
theorem exists_body (front rest : List Char) : ∃ back, back <+: rest ∧
    ∀ text, body (front ++ literal text ++ rest) = trimStart front ++ literal text ++ back := by
  have dark : isBlank '\'' = false := by decide
  have parts (s text r : List Char) :
      s ++ literal text ++ r = (s ++ '\'' :: escape text) ++ '\'' :: r := by simp [literal]
  have opens (s text r : List Char) :
      s ++ literal text ++ r = s ++ '\'' :: (escape text ++ '\'' :: r) := by simp [literal]
  refine ⟨trimEnd (dropSemicolon (trimEnd rest)),
    (trimEnd_within _).trans ((dropSemicolon_within _).trans (trimEnd_within _)), fun text => ?_⟩
  rw [body, trim, opens, trimStart_append_cons dark, ← opens, parts, trimEnd_append_cons dark,
    dropSemicolon_append_quote, trimEnd_append_cons dark, parts]

/-- What is left of a chunk with a literal is a statement. -/
theorem not_remarks_literal {front : List Char} (reads : (Scan.initial.run front).mode.reads)
    (text back : List Char) : ¬ Remarks (trimStart front ++ literal text ++ back) := by
  obtain ⟨blanks, blank, parts⟩ := exists_trimStart front
  rw [parts, Scan.run_append] at reads
  have opens : trimStart front ++ literal text ++ back =
      trimStart front ++ '\'' :: (escape text ++ '\'' :: back) := by simp [literal]
  rw [opens]
  exact not_remarks_quote (Scan.idle_initial.blanks blank) reads _

/-! ## Texts with a literal -/

section Literals

variable {p q : List Char} (clean : '\x00' ∉ p) (clean' : '\x00' ∉ q)
  (outside : (Scan.initial.run p).mode.reads)

include clean clean' outside

/-- Whether the text is complete is decided behind the literal, where the reader stands in one
place. -/
theorem isComplete_literal (text : List Char) : isComplete (p ++ literal text ++ q) =
    (Scan.run ⟨.plain, (Scan.initial.run p).settled.next .other⟩ q).accepts := by
  refine accepts_iff ?_ (by simp [clean, clean', not_mem_literal])
  rw [Scan.run_append, Scan.run_literal outside]

/-- The cuts in front of a literal are those of the text in front of it, and the literal stands
in the chunk behind them. -/
theorem exists_chunks : ∃ cut last head more, p = cut.flatten ++ last ∧ head <+: q ∧
    (Scan.initial.run last).mode.reads ∧
    ∀ text, chunks (p ++ literal text ++ q) = cut ++ (last ++ literal text ++ head) :: more := by
  obtain ⟨whole, cut, last, parts, ends, none⟩ := chunks_divides p
  have whole : p = cut.flatten ++ last := by
    rw [← whole, parts]
    simp
  have clean_cut : '\x00' ∉ cut.flatten := fun nul => clean (whole ▸ List.mem_append_left _ nul)
  have clean_last : '\x00' ∉ last := fun nul => clean (whole ▸ List.mem_append_right _ nul)
  have reads : (Scan.initial.run last).mode.reads := by
    rwa [← reads_of_chunks clean_cut ends, ← whole]
  obtain ⟨head, more, inside, chunked⟩ :=
    exists_head ⟨.plain, (Scan.initial.run last).settled.next .other⟩ clean'
  refine ⟨cut, last, head, more, whole, inside, reads, fun text => ?_⟩
  have one : chunks (p ++ literal text) = cut ++ [last ++ literal text] := by
    refine divides_unique (chunks_divides _) ⟨?_, cut, _, rfl, ends, ?_⟩
    · rw [whole]
      simp
    · exact noCut_literal clean_last none reads text
  rw [chunks, chunksFrom_append one]
  refine congrArg (cut ++ ·) (chunked _ ?_ ?_)
  · simp [clean_last, not_mem_literal]
  · rw [Scan.run_append, Scan.run_literal reads]

end Literals

/-- Whether a text is complete does not depend on what a literal in it holds, and neither do
the statements of a script: one of them holds the literal, between texts that are the same
whatever it holds, and so are all others. -/
theorem literal_is_opaque (p q : List Char) (clean : '\x00' ∉ p) (clean' : '\x00' ∉ q)
    (outside : (Scan.initial.run p).mode.reads) :
    (∀ v w, isComplete (p ++ literal v ++ q) = isComplete (p ++ literal w ++ q)) ∧
    ∃ before front back after, front <:+ p ∧ back <+: q ∧
      ∀ v, split (p ++ literal v ++ q) = before ++ (front ++ literal v ++ back) :: after := by
  refine ⟨fun v w => ?_, ?_⟩
  · rw [isComplete_literal clean clean' outside v, isComplete_literal clean clean' outside w]
  obtain ⟨cut, last, head, more, whole, inside, reads, chunked⟩ :=
    exists_chunks clean clean' outside
  obtain ⟨back, within, left⟩ := exists_body last head
  have front : trimStart last <:+ p := (List.dropWhile_suffix _).trans ⟨cut.flatten, whole.symm⟩
  refine ⟨(cut.map body).filter fun s => !isCommentOnly s, trimStart last, back,
    (more.map body).filter fun s => !isCommentOnly s, front, within.trans inside, fun v => ?_⟩
  have speaks : isCommentOnly (trimStart last ++ literal v ++ back) = false := by
    rw [Bool.eq_false_iff, ne_eq, isCommentOnly_iff]
    exact not_remarks_literal reads v back
  rw [split, chunked, List.map_append, List.filter_append, List.map_cons, left,
    List.filter_cons_of_pos (by rw [speaks]; rfl)]

/-- A value that would end the literal, the statement and the script, if it were not escaped. -/
theorem hostile_literal_is_opaque :
    let p := "-- names\nINSERT INTO t VALUES (".toList
    let q := "); SELECT 1;".toList
    let hostile := literal "'; DROP TABLE t; --\n'".toList
    isComplete (p ++ hostile ++ q) = isComplete (p ++ literal "Ann".toList ++ q) ∧
    ∃ before front back after, front <:+ p ∧ back <+: q ∧
      split (p ++ hostile ++ q) = before ++ (front ++ hostile ++ back) :: after ∧
      split (p ++ literal "Ann".toList ++ q) =
        before ++ (front ++ literal "Ann".toList ++ back) :: after := by
  intro p q hostile
  have clean : '\x00' ∉ p := by decide +kernel
  have clean' : '\x00' ∉ q := by decide +kernel
  have outside : (Scan.initial.run p).mode.reads := by decide +kernel
  obtain ⟨complete, before, front, back, after, suffix, within, same⟩ :=
    literal_is_opaque p q clean clean' outside
  exact ⟨complete _ _, before, front, back, after, suffix, within, same _, same _⟩

end SqlDriver.Script
