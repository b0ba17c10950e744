/-
# SqlDriver.Proofs.Script.Division -- a script is divided in one way, and nothing is lost

`Divides script parts` says where a script may be cut: behind the semicolons that
complete the text since the last cut, and behind each of those.  There is one such
division (`chunks_divides`, `divides_unique`).  A `Layout` names what becomes of
each character of a part: the blanks at its ends, its last semicolon, and what is
kept between them, which is a statement or else blank lines and remarks.

`split_layouts` is the account of a whole script: its statements are those of the
layouts of its one division, in order, and every character of the script stands in
one place of one statement unless its layout says why it is left out.
-/
import SqlDriver.Proofs.Text.Trim
import SqlDriver.Script.Split

namespace SqlDriver.Script

set_option autoImplicit false

open SqlDriver.Text

/-! ## Where a script is cut -/

/-- No semicolon of the text completes what stands up to it. -/
def NoCut (text : List Char) : Prop :=
  ∀ front, front ++ [';'] <+: text → ¬ isComplete (front ++ [';'])

/-- The text ends at a semicolon that completes it, and at the first one that does. -/
def EndsComplete (chunk : List Char) : Prop :=
  ∃ front, chunk = front ++ [';'] ∧ isComplete chunk ∧ NoCut front

/-- The parts make up the script, and each but the last ends where it is complete. -/
def Divides (script : List Char) (parts : List (List Char)) : Prop :=
  parts.flatten = script ∧
    ∃ cut last, parts = cut ++ [last] ∧ (∀ chunk ∈ cut, EndsComplete chunk) ∧ NoCut last

theorem noCut_nil : NoCut [] := by
  intro front inside
  simp at inside

theorem NoCut.of_prefix {text front : List Char} (none : NoCut text) (inside : front <+: text) :
    NoCut front :=
  fun p semicolon => none p (semicolon.trans inside)

/-- One more character makes no cut unless it is a semicolon that completes the text. -/
theorem NoCut.snoc {text : List Char} {c : Char} (none : NoCut text)
    (here : ¬ (c = ';' ∧ isComplete (text ++ [c]))) : NoCut (text ++ [c]) := by
  intro front inside complete
  obtain whole | earlier := List.prefix_concat_iff.mp inside
  · obtain ⟨rfl, same⟩ := List.append_inj' whole rfl
    cases same
    exact here ⟨rfl, complete⟩
  · exact none front earlier complete

theorem EndsComplete.not_within {chunk text : List Char} (ends : EndsComplete chunk)
    (none : NoCut text) : ¬ chunk <+: text := by
  intro inside
  obtain ⟨front, rfl, complete, -⟩ := ends
  exact none front inside complete

/-- Of two texts that end where they first are complete none begins the other. -/
theorem EndsComplete.eq_of_prefix {chunk other : List Char} (ends : EndsComplete chunk)
    (ends' : EndsComplete other) (inside : chunk <+: other) : chunk = other := by
  obtain ⟨front, rfl, -, none⟩ := ends'
  obtain whole | earlier := List.prefix_concat_iff.mp inside
  · exact whole
  · exact absurd earlier (ends.not_within none)

/-- A text is divided into chunks that end complete, and a last one without a cut. -/
theorem chunksFrom_divides (seen s : List Char) (none : NoCut seen.reverse) :
    ∃ cut last, chunksFrom seen s = cut ++ [last] ∧ (∀ chunk ∈ cut, EndsComplete chunk) ∧
      NoCut last := by
  induction s generalizing seen with
  | nil => exact ⟨[], seen.reverse, rfl, by simp, none⟩
  | cons c r ih =>
      rw [chunksFrom, List.reverse_cons]
      by_cases here : c = ';' ∧ isComplete (seen.reverse ++ [c])
      · obtain ⟨cut, last, parts, ends, rest⟩ := ih [] noCut_nil
        refine ⟨(seen.reverse ++ [c]) :: cut, last, ?_, ?_, rest⟩
        · rw [if_pos (by simpa using here), parts, List.cons_append]
        · intro chunk inside
          obtain rfl | inside := List.mem_cons.mp inside
          · exact ⟨seen.reverse, by rw [here.1], here.2, none⟩
          · exact ends chunk inside
      · rw [if_neg (by simpa using here)]
        refine ih (c :: seen) ?_
        rw [List.reverse_cons]
        exact none.snoc here

theorem chunks_divides (script : List Char) : Divides script (chunks script) :=
  ⟨chunks_flatten script, chunksFrom_divides [] script noCut_nil⟩

/-- Two divisions of one script agree: at the first chunk where they might differ,
one of them would run past a cut of the other. -/
theorem divides_unique {script : List Char} {parts others : List (List Char)}
    (division : Divides script parts) (division' : Divides script others) : parts = others := by
  obtain ⟨whole, cut, last, rfl, ends, rest⟩ := division
  obtain ⟨whole', cut', last', rfl, ends', rest'⟩ := division'
  induction cut generalizing cut' script with
  | nil =>
      cases cut' with
      | nil => simp_all
      | cons chunk more =>
          refine absurd ?_ ((ends' chunk (by simp)).not_within rest)
          exact ⟨(more ++ [last']).flatten, by simpa using whole'.trans whole.symm⟩
  | cons chunk more ih =>
      cases cut' with
      | nil =>
          refine absurd ?_ ((ends chunk (by simp)).not_within rest')
          exact ⟨(more ++ [last]).flatten, by simpa using whole.trans whole'.symm⟩
      | cons chunk' more' =>
          have first := ends chunk (by simp)
          have first' := ends' chunk' (by simp)
          have same : chunk = chunk' := by
            have both : chunk <+: script ∧ chunk' <+: script :=
              ⟨⟨_, by simpa using whole⟩, ⟨_, by simpa using whole'⟩⟩
            obtain inside | inside := List.prefix_or_prefix_of_prefix both.1 both.2
            · exact first.eq_of_prefix first' inside
            · exact (first'.eq_of_prefix first inside).symm
          subst same
          have tails : (more ++ [last]).flatten = (more' ++ [last']).flatten := by
            simpa using whole.trans whole'.symm
          have rest := ih rfl
            (fun c inside => ends c (List.mem_cons_of_mem _ inside)) more' tails.symm
            (fun c inside => ends' c (List.mem_cons_of_mem _ inside))
          rw [List.cons_append, rest, List.cons_append]

/-! ## Remarks -/

/-- The line is nothing but a comment. -/
def IsRemark (line : List Char) : Prop :=
  ['-', '-'] <+: trim line

instance (line : List Char) : Decidable (IsRemark line) :=
  inferInstanceAs (Decidable (_ <+: _))

/-- Every line is blank or a remark. -/
def Remarks (s : List Char) : Prop :=
  ∀ line ∈ lines s, AllBlank line ∨ IsRemark line

theorem isCommentLine_iff (line : List Char) :
    isCommentLine line ↔ AllBlank line ∨ IsRemark line := by
  simp [isCommentLine, IsRemark, List.isEmpty_iff, trim_eq_nil_iff]

theorem isCommentOnly_iff (s : List Char) : isCommentOnly s ↔ Remarks s := by
  simp [isCommentOnly, Remarks, isCommentLine_iff]

instance (s : List Char) : Decidable (Remarks s) :=
  decidable_of_iff _ (isCommentOnly_iff s)

/-! ## What becomes of the characters of a chunk -/

/-- A stretch of a chunk. -/
inductive Piece where
  /-- White space. -/
  | blanks (s : List Char)
  /-- The semicolon taken from the end of a chunk. -/
  | ending
  /-- A line of comment in a chunk of comments. -/
  | remark (line : List Char)
  /-- A statement. -/
  | statement (s : List Char)

namespace Piece

def text : Piece → List Char
  | .blanks s => s
  | .ending => [';']
  | .remark line => line
  | .statement s => s

def statement? : Piece → Option (List Char)
  | .statement s => some s
  | _ => none

/-- The piece is what it is called. -/
def Sound : Piece → Prop
  | .blanks s => AllBlank s
  | .remark line => IsRemark line
  | .ending | .statement _ => True

@[simp] theorem text_blanks (s : List Char) : (blanks s).text = s := rfl

@[simp] theorem text_ending : ending.text = [';'] := rfl

@[simp] theorem text_remark (line : List Char) : (remark line).text = line := rfl

@[simp] theorem text_statement (s : List Char) : (statement s).text = s := rfl

@[simp] theorem statement?_blanks (s : List Char) : (blanks s).statement? = none := rfl

@[simp] theorem statement?_ending : ending.statement? = none := rfl

@[simp] theorem statement?_remark (line : List Char) : (remark line).statement? = none := rfl

@[simp] theorem statement?_statement (s : List Char) : (statement s).statement? = some s := rfl

end Piece

/-- The lines of a text of comments, with the newlines between them. -/
def linePieces : List (List Char) → List Piece
  | [] => []
  | [line] => [linePiece line]
  | line :: more => linePiece line :: .blanks ['\n'] :: linePieces more
where
  linePiece (line : List Char) : Piece :=
    if IsRemark line then .remark line else .blanks line

/-- How a chunk is taken apart: blanks in front, the text that is kept, the blanks
and the semicolon behind it, and blanks at the end. -/
structure Layout where
  front : List Char
  kept : List Char
  gap : List Char
  ended : Bool
  back : List Char
  blankFront : AllBlank front
  blankGap : AllBlank gap
  blankBack : AllBlank back
  /-- All blanks around the kept text are taken. -/
  bare : Bare kept
  /-- A semicolon at the end is taken. -/
  taken : ended = false → gap = [] ∧ kept.getLast? ≠ some ';'

namespace Layout

/-- What the kept text is: one statement, or else lines that say nothing. -/
def inner (l : Layout) : List Piece :=
  if Remarks l.kept then linePieces (lines l.kept) else [.statement l.kept]

def pieces (l : Layout) : List Piece :=
  .blanks l.front :: l.inner ++
    [.blanks l.gap] ++ (if l.ended then [.ending] else []) ++ [.blanks l.back]

def text (l : Layout) : List Char :=
  l.front ++ l.kept ++ l.gap ++ (if l.ended then [';'] else []) ++ l.back

/-- The statement of a chunk, unless all that is kept of it is blank lines and remarks. -/
def statement? (l : Layout) : Option (List Char) :=
  if Remarks l.kept then none else some l.kept

end Layout

theorem linePieces_text (s : List Char) : (linePieces (lines s)).flatMap Piece.text = s := by
  have one (line : List Char) : (linePieces.linePiece line).text = line := by
    rw [linePieces.linePiece]
    split <;> rfl
  induction s using lines_induction with
  | one line single => simp [lines_of_line single, linePieces, one]
  | more line r single ih =>
      rw [lines_append_newline single]
      obtain ⟨next, more, rest⟩ := List.exists_cons_of_ne_nil (lines_ne_nil r)
      rw [rest] at ih ⊢
      simp [linePieces, one, ih]

theorem linePieces_statements (ls : List (List Char)) :
    (linePieces ls).filterMap Piece.statement? = [] := by
  have one (line : List Char) : (linePieces.linePiece line).statement? = none := by
    rw [linePieces.linePiece]
    split <;> rfl
  induction ls using linePieces.induct with
  | case1 => rfl
  | case2 line => simp [linePieces, one]
  | case3 line more _ ih =>
      rw [linePieces, List.filterMap_cons_none (one line), List.filterMap_cons_none rfl, ih]
      assumption

theorem linePieces_sound {ls : List (List Char)}
    (silent : ∀ line ∈ ls, AllBlank line ∨ IsRemark line) : ∀ p ∈ linePieces ls, p.Sound := by
  have one {line : List Char} (quiet : AllBlank line ∨ IsRemark line) :
      (linePieces.linePiece line).Sound := by
    rw [linePieces.linePiece]
    split
    · assumption
    · exact quiet.resolve_right ‹_›
  intro p inside
  induction ls using linePieces.induct with
  | case1 => simp [linePieces] at inside
  | case2 line =>
      obtain rfl : p = linePieces.linePiece line := by simpa [linePieces] using inside
      exact one (silent line (by simp))
  | case3 line more _ ih =>
      rw [linePieces] at inside
      · obtain rfl | rfl | later : _ ∨ _ ∨ _ := by simpa only [List.mem_cons] using inside
        · exact one (silent line (by simp))
        · simp [Piece.Sound, AllBlank, isBlank]
        · exact ih (fun line there => silent line (List.mem_cons_of_mem _ there)) later
      · assumption

namespace Layout

theorem inner_text (l : Layout) : l.inner.flatMap Piece.text = l.kept := by
  rw [inner]
  split
  · exact linePieces_text l.kept
  · simp

theorem pieces_text (l : Layout) : l.pieces.flatMap Piece.text = l.text := by
  rw [pieces, text]
  cases l.ended <;> simp [inner_text]

theorem pieces_statements (l : Layout) :
    l.pieces.filterMap Piece.statement? = l.statement?.toList := by
  have inside : l.inner.filterMap Piece.statement? = l.statement?.toList := by
    rw [inner, statement?]
    split
    · exact linePieces_statements _
    · rfl
  rw [pieces]
  cases l.ended <;> simp [List.filterMap_cons, inside]

theorem pieces_sound (l : Layout) : ∀ p ∈ l.pieces, p.Sound := by
  intro p inside
  have kept : p ∈ l.inner → p.Sound := by
    rw [inner]
    split
    · exact linePieces_sound ‹_› p
    · intro only
      obtain rfl := List.mem_singleton.mp only
      trivial
  have places : p = .blanks l.front ∨ p ∈ l.inner ∨ p = .blanks l.gap ∨ p = .ending ∨
      p = .blanks l.back := by
    rw [pieces] at inside
    cases ended : l.ended <;> simp [ended] at inside <;> tauto
  obtain rfl | there | rfl | rfl | rfl := places
  · exact l.blankFront
  · exact kept there
  · exact l.blankGap
  · trivial
  · exact l.blankBack

end Layout

/-! ## A chunk's layout -/

theorem exists_layout (chunk : List Char) :
    ∃ l : Layout, l.text = chunk ∧ l.kept = body chunk := by
  obtain ⟨front, back, blankFront, blankBack, parts⟩ := exists_trim chunk
  have bare := bare_trim chunk
  by_cases ended : (trim chunk).getLast? = some ';'
  · obtain ⟨u, ends⟩ := List.getLast?_eq_some_iff.mp ended
    obtain ⟨gap, blankGap, inside⟩ := exists_trimEnd u
    have kept : body chunk = trimEnd u := by
      rw [body, dropSemicolon, if_pos ended, ends, List.dropLast_concat]
    have first : ∀ c ∈ u.head?, isBlank c = false := by
      intro c there
      refine bare.first c ?_
      rw [ends, List.head?_append, Option.mem_def.mp there]
      rfl
    have whole : chunk = front ++ (trimEnd u ++ gap ++ [';']) ++ back := by
      rwa [← inside, ← ends]
    refine ⟨⟨front, trimEnd u, gap, true, back, blankFront, blankGap, blankBack,
      ⟨first_trimEnd first, last_trimEnd u⟩, by simp⟩, ?_, kept.symm⟩
    simpa [Layout.text] using whole.symm
  · have kept : body chunk = trim chunk := by
      rw [body, dropSemicolon, if_neg ended, trimEnd_eq_self bare.last]
    refine ⟨⟨front, trim chunk, [], false, back, blankFront, allBlank_nil, blankBack, bare,
      fun _ => ⟨rfl, ended⟩⟩, ?_, kept.symm⟩
    simpa [Layout.text] using parts.symm

/-- The layouts of the chunks of a script, in order. -/
theorem exists_layouts (parts : List (List Char)) :
    ∃ layouts : List Layout, parts = layouts.map Layout.text ∧
      (parts.map body).filter (fun s => !isCommentOnly s) =
        layouts.filterMap Layout.statement? := by
  induction parts with
  | nil => exact ⟨[], rfl, rfl⟩
  | cons chunk more ih =>
      obtain ⟨l, whole, kept⟩ := exists_layout chunk
      obtain ⟨layouts, texts, statements⟩ := ih
      refine ⟨l :: layouts, by rw [List.map_cons, whole, texts], ?_⟩
      rw [List.map_cons, List.filter_cons, ← kept, statements, List.filterMap_cons,
        Layout.statement?]
      by_cases silent : Remarks l.kept
      · simp [silent, (isCommentOnly_iff l.kept).mpr silent]
      · simp [silent, mt (isCommentOnly_iff l.kept).mp silent]

/-! ## Where a character goes -/

/-- Character `o` of statement `j` is character `i` of the pieces' text. -/
def Stands (pieces : List Piece) (j o i : Nat) : Prop :=
  ∃ before s after, pieces = before ++ .statement s :: after ∧
    j = (before.filterMap Piece.statement?).length ∧ o < s.length ∧
      i = (before.flatMap Piece.text).length + o

/-- Character `i` of the pieces' text belongs to a piece like `p`. -/
def Within (pieces : List Piece) (p : Piece) (i : Nat) : Prop :=
  ∃ before after, pieces = before ++ p :: after ∧
    (before.flatMap Piece.text).length ≤ i ∧
      i < (before.flatMap Piece.text).length + p.text.length

/-- A place stands in the first piece, or in those behind it. -/
theorem stands_cons (p : Piece) (r : List Piece) (j o i : Nat) :
    Stands (p :: r) j o i ↔
      (p.statement?.isSome ∧ j = 0 ∧ o < p.text.length ∧ i = o) ∨
        ∃ j' i', Stands r j' o i' ∧
          j = p.statement?.toList.length + j' ∧ i = p.text.length + i' := by
  constructor
  · rintro ⟨before, s, after, same, number, inside, place⟩
    obtain _ | ⟨q, before⟩ := before
    · obtain ⟨rfl, rfl⟩ := List.cons.inj same
      exact .inl ⟨rfl, number, inside, by simpa using place⟩
    · obtain ⟨rfl, rest⟩ := List.cons.inj same
      refine .inr ⟨_, _, ⟨before, s, after, rest, rfl, inside, rfl⟩, ?_, ?_⟩
      · rw [number]
        cases p <;> simp [List.filterMap_cons, Nat.add_comm]
      · simp [place, Nat.add_assoc]
  · rintro (⟨statement, rfl, inside, rfl⟩ |
      ⟨j', i', ⟨before, s, after, rfl, rfl, inside, rfl⟩, rfl, rfl⟩)
    · cases p with
      | statement s => exact ⟨[], s, r, rfl, rfl, inside, by simp⟩
      | blanks _ | ending | remark _ => simp at statement
    · refine ⟨p :: before, s, after, rfl, ?_, inside, by simp [Nat.add_assoc]⟩
      cases p <;> simp [List.filterMap_cons, Nat.add_comm]

theorem Within.cons {r : List Piece} {p : Piece} {i : Nat} (there : Within r p i) (q : Piece) :
    Within (q :: r) p (q.text.length + i) := by
  obtain ⟨before, after, rfl, low, high⟩ := there
  refine ⟨q :: before, after, rfl, ?_, ?_⟩ <;>
    simp only [List.flatMap_cons, List.length_append] <;> omega

/-- A character within a piece is one of its text. -/
theorem Within.mem {pieces : List Piece} {p : Piece} {i : Nat} {c : Char}
    (within : Within pieces p i) (here : (pieces.flatMap Piece.text)[i]? = some c) :
    c ∈ p.text := by
  obtain ⟨before, after, rfl, low, high⟩ := within
  obtain ⟨o, rfl⟩ := Nat.exists_eq_add_of_le low
  rw [List.flatMap_append, List.getElem?_append_right low, Nat.add_sub_cancel_left,
    List.flatMap_cons, List.getElem?_append_left (by omega)] at here
  exact List.mem_of_getElem? here

/-- Every character belongs to a piece that is left out, or stands in one place of
one statement. -/
theorem within_or_stands (pieces : List Piece) (i : Nat)
    (inside : i < (pieces.flatMap Piece.text).length) :
    (∃ p ∈ pieces, p.statement? = none ∧ Within pieces p i) ∨
      ∃! place : Nat × Nat, Stands pieces place.1 place.2 i := by
  induction pieces generalizing i with
  | nil => simp at inside
  | cons p r ih =>
      by_cases here : i < p.text.length
      · cases statement : p.statement? with
        | none => exact .inl ⟨p, by simp, statement, [], r, rfl, by simp, by simpa using here⟩
        | some s =>
            refine .inr
              ⟨(0, i), (stands_cons ..).mpr (.inl ⟨by simp [statement], rfl, here, rfl⟩), ?_⟩
            rintro ⟨j, o⟩ place
            obtain ⟨-, rfl, -, rfl⟩ | ⟨j', i', -, -, rfl⟩ := (stands_cons ..).mp place
            · rfl
            · omega
      · obtain ⟨i', rfl⟩ := Nat.exists_eq_add_of_le (Nat.le_of_not_lt here)
        rw [List.flatMap_cons, List.length_append] at inside
        obtain ⟨q, there, left, within⟩ | ⟨⟨j, o⟩, place, only⟩ := ih i' (by omega)
        · exact .inl ⟨q, List.mem_cons_of_mem _ there, left, within.cons p⟩
        · refine .inr ⟨(p.statement?.toList.length + j, o),
            (stands_cons ..).mpr (.inr ⟨j, i', place, rfl, rfl⟩), ?_⟩
          rintro ⟨j₁, o₁⟩ place₁
          obtain ⟨-, -, short, rfl⟩ | ⟨j', i₁, place', same, moved⟩ := (stands_cons ..).mp place₁
          · omega
          · obtain rfl : i' = i₁ := by omega
            have twin := only (j', o₁) place'
            cases twin
            exact Prod.ext same rfl

/-- What stands at a place of a statement is the character of the text there. -/
theorem Stands.same {pieces : List Piece} {j o i : Nat} (place : Stands pieces j o i) :
    ((pieces.filterMap Piece.statement?)[j]?.bind (·[o]?)) = (pieces.flatMap Piece.text)[i]? := by
  obtain ⟨before, s, after, rfl, rfl, inside, rfl⟩ := place
  simp [List.getElem?_append, inside]

/-- The pieces of all chunks, in order. -/
def piecesOf (layouts : List Layout) : List Piece :=
  layouts.flatMap Layout.pieces

theorem piecesOf_text (layouts : List Layout) :
    (piecesOf layouts).flatMap Piece.text = (layouts.map Layout.text).flatten := by
  rw [piecesOf, List.flatMap_assoc, ← List.flatMap_def]
  simp only [Layout.pieces_text]

theorem piecesOf_statements (layouts : List Layout) :
    (piecesOf layouts).filterMap Piece.statement? = layouts.filterMap Layout.statement? := by
  induction layouts with
  | nil => rfl
  | cons l more ih =>
      rw [piecesOf, List.flatMap_cons, List.filterMap_append, Layout.pieces_statements,
        ← piecesOf, ih, List.filterMap_cons]
      cases l.statement? <;> rfl

/-- A character of a piece that is left out is blank, or the semicolon taken from
the end of a chunk, or in a line of comment. -/
theorem left_out {layouts : List Layout} {p : Piece} {i : Nat} {c : Char}
    (there : p ∈ piecesOf layouts) (left : p.statement? = none)
    (within : Within (piecesOf layouts) p i)
    (here : ((piecesOf layouts).flatMap Piece.text)[i]? = some c) :
    isBlank c ∨ p = .ending ∨ ∃ line, IsRemark line ∧ p = .remark line := by
  obtain ⟨l, -, member⟩ := List.mem_flatMap.mp there
  have sound := l.pieces_sound p member
  cases p with
  | statement s => simp at left
  | ending => exact .inr (.inl rfl)
  | remark line => exact .inr (.inr ⟨line, sound, rfl⟩)
  | blanks s => exact .inl (sound c (within.mem here))

/-- A script has one division into chunks.  Its statements are what the layouts of
the chunks keep, in order.  A character of the script that is not blank, not the
semicolon taken from the end of a chunk and not in a line of comment of a chunk of
comments stands in one place of one statement, and what stands in a place of a
statement is a character of the script. -/
theorem split_layouts (script : List Char) :
    ∃ layouts : List Layout,
      (∀ parts, Divides script parts ↔ parts = layouts.map Layout.text) ∧
      split script = layouts.filterMap Layout.statement? ∧
      (∀ i c, script[i]? = some c → isBlank c = false →
        ¬ Within (piecesOf layouts) .ending i →
        (∀ line, IsRemark line → ¬ Within (piecesOf layouts) (.remark line) i) →
        ∃! place : Nat × Nat, Stands (piecesOf layouts) place.1 place.2 i) ∧
      ∀ j o i, Stands (piecesOf layouts) j o i →
        (split script)[j]?.bind (·[o]?) = script[i]? := by
  obtain ⟨layouts, texts, statements⟩ := exists_layouts (chunks script)
  have whole : (piecesOf layouts).flatMap Piece.text = script := by
    rw [piecesOf_text, ← texts, chunks_flatten]
  have kept : split script = layouts.filterMap Layout.statement? := statements
  refine ⟨layouts, fun parts => ?_, kept, fun i c here dark ending remark => ?_,
    fun j o i place => ?_⟩
  · rw [← texts]
    exact ⟨fun division => divides_unique division (chunks_divides script),
      fun same => same ▸ chunks_divides script⟩
  · have inside : i < ((piecesOf layouts).flatMap Piece.text).length := by
      rw [whole]
      exact (List.getElem?_eq_some_iff.mp here).1
    obtain ⟨p, there, left, within⟩ | place := within_or_stands (piecesOf layouts) i inside
    · obtain blank | rfl | ⟨line, comment, rfl⟩ := left_out there left within (by rw [whole, here])
      · simp [dark] at blank
      · exact absurd within ending
      · exact absurd within (remark line comment)
    · exact place
  · rw [kept, ← piecesOf_statements, place.same, whole]

end SqlDriver.Script
