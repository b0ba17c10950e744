/-
# SqlDriver.Proofs.Script.Reading -- what a run of the reader depends on

Where the reader stands after a character depends on where it stood, up to the word
it was in, and not on the state of the statement (`run_shape`).  So two runs over
one text read the same semicolons.  `exists_semicolon`: a text is complete only
behind a semicolon that was read as one.

`Past` is a statement that has begun with something else than a keyword.  Nothing
but a semicolon ends that, and the first one does (`Past.ends`).  Blanks and lines
of comment leave the reader `Idle`: nothing has begun, or such a statement has.
-/
import Mathlib.Tactic.SplitIfs
import SqlDriver.Proofs.Text.Trim
import SqlDriver.Script.Complete

namespace SqlDriver.Script

set_option autoImplicit false

open SqlDriver.Text

/-! ## Tokens -/

/-- A statement ends with a semicolon and with no other token. -/
theorem State.next_eq_start {state : State} {token : Token} (here : state.next token = .start) :
    token = .semicolon ∨ (state = .start ∧ token = .blank) := by
  cases state <;> cases token <;> simp [State.next] at here ⊢

theorem State.next_other_ne_start (state : State) : state.next .other ≠ .start := by
  cases state <;> decide

theorem Token.ofWord_ne (word : List Char) : ofWord word ≠ .semicolon ∧ ofWord word ≠ .blank := by
  rw [ofWord]
  split <;> decide

theorem State.next_ofWord_ne_start (state : State) (word : List Char) :
    state.next (Token.ofWord word) ≠ .start := by
  intro here
  obtain semicolon | ⟨-, blank⟩ := next_eq_start here
  · exact (Token.ofWord_ne word).1 semicolon
  · exact (Token.ofWord_ne word).2 blank

theorem State.next_ofWord_of_normal (word : List Char) :
    State.next .normal (Token.ofWord word) = .normal := by
  cases token : Token.ofWord word with
  | semicolon => exact absurd token (Token.ofWord_ne word).1
  | blank | other | explain | create | temporary | trigger | closing => rfl

/-- A character beyond ASCII. -/
def Foreign (c : Char) : Prop :=
  0x80 ≤ c.toNat

theorem Foreign.toLower {c : Char} (foreign : Foreign c) : c.toLower = c := by
  have not_upper : ¬ (c.val ≥ 'A'.val ∧ c.val ≤ 'Z'.val) := by
    rintro ⟨-, small⟩
    have small : c.toNat ≤ 'Z'.toNat := small
    exact absurd (Nat.le_trans foreign small) (by decide)
  exact dif_neg not_upper

/-- No keyword has a character beyond ASCII. -/
theorem Token.ofWord_of_foreign {word : List Char} {c : Char} (inside : c ∈ word)
    (foreign : Foreign c) : ofWord word = .other := by
  have lower : c ∈ word.map Char.toLower := List.mem_map.mpr ⟨c, inside, foreign.toLower⟩
  have other (keyword : String) (ascii : keyword.toList.all fun d => d.toNat < 0x80) :
      String.ofList (word.map Char.toLower) ≠ keyword := by
    rintro rfl
    rw [String.toList_ofList] at ascii
    exact absurd (of_decide_eq_true (List.all_eq_true.1 ascii c lower)) (Nat.not_lt.mpr foreign)
  rw [ofWord]
  split <;> first | rfl | exact absurd ‹_› (other _ (by decide))

/-! ## Characters between tokens -/

theorem Foreign.isWordChar {c : Char} (foreign : Foreign c) : isWordChar c := by
  simp [Script.isWordChar, show 0x80 ≤ c.toNat from foreign]

namespace Scan

theorem plainStep_of_isWordChar {c : Char} (inside : isWordChar c) (state : State) :
    plainStep state c = ⟨.word [c], state⟩ := by
  have other (d : Char) (outside : isWordChar d = false) : c ≠ d := by
    rintro rfl
    simp [inside] at outside
  have quote : c.toNat ≠ 0x60 := by
    intro same
    refine other (Char.ofNat 0x60) (by decide) ?_
    rw [← same, Char.ofNat_toNat]
  have space : isSpace c = false := by
    simp [isSpace, other ' ' (by decide), other '\t' (by decide), other '\n' (by decide),
      other '\r' (by decide), other '\x0c' (by decide)]
  simp [plainStep, inside, space, quote, other ';' (by decide), other '/' (by decide),
    other '-' (by decide), other '[' (by decide), other '"' (by decide), other '\'' (by decide)]

/-- A blank is a blank to the reader, or a token of no meaning, or begins a word
that is no keyword. -/
theorem plainStep_of_isBlank {c : Char} (blank : isBlank c) (state : State) :
    plainStep state c = ⟨.plain, state.next .blank⟩ ∨
      plainStep state c = ⟨.plain, state.next .other⟩ ∨
        Foreign c ∧ plainStep state c = ⟨.word [c], state⟩ := by
  by_cases foreign : Foreign c
  · exact .inr (.inr ⟨foreign, plainStep_of_isWordChar foreign.isWordChar state⟩)
  · have ascii : c.toNat < 0x80 := Nat.not_le.mp foreign
    have few : c.toNat = 9 ∨ c.toNat = 10 ∨ c.toNat = 11 ∨ c.toNat = 12 ∨ c.toNat = 13 ∨
        c.toNat = 32 := by
      simp only [isBlank, Bool.or_eq_true, Bool.and_eq_true, decide_eq_true_eq, beq_iff_eq] at blank
      omega
    have same := Char.ofNat_toNat c
    obtain code | code | code | code | code | code := few <;> rw [code] at same <;> subst same <;>
      first | exact .inl rfl | exact .inr (.inl rfl)

theorem plainStep_mode (state state' : State) (c : Char) :
    (plainStep state c).mode = (plainStep state' c).mode := by
  unfold plainStep
  split_ifs <;> rfl

/-! ## The place does not depend on the state -/

end Scan

/-- The place, up to the word that is being read. -/
def Mode.shape : Mode → Mode
  | .word _ => .plain
  | m => m

/-- A semicolon here is read as one. -/
def Mode.reads : Mode → Bool
  | .plain | .word _ | .slash | .dash => true
  | .lineComment | .blockComment _ | .quoted _ => false

theorem Mode.reads_shape (m : Mode) : m.shape.reads = m.reads := by
  cases m <;> rfl

namespace Scan

theorem step_shape (x : Scan) (c : Char) :
    (x.step c).mode.shape = (step ⟨x.mode.shape, .invalid⟩ c).mode.shape := by
  obtain ⟨mode, state⟩ := x
  cases mode with
  | plain => exact congrArg Mode.shape (plainStep_mode ..)
  | word seen =>
      change (step ⟨.word seen, state⟩ c).mode.shape = (plainStep .invalid c).mode.shape
      by_cases inside : isWordChar c
      · simp [step, inside, Mode.shape, plainStep_of_isWordChar inside]
      · simp only [step, inside]
        exact congrArg Mode.shape (plainStep_mode ..)
  | slash =>
      change (step ⟨.slash, state⟩ c).mode.shape = (step ⟨.slash, .invalid⟩ c).mode.shape
      simp only [step]
      split
      · rfl
      · exact congrArg Mode.shape (plainStep_mode ..)
  | dash =>
      change (step ⟨.dash, state⟩ c).mode.shape = (step ⟨.dash, .invalid⟩ c).mode.shape
      simp only [step]
      split
      · rfl
      · exact congrArg Mode.shape (plainStep_mode ..)
  | lineComment =>
      change (step ⟨.lineComment, state⟩ c).mode.shape =
        (step ⟨.lineComment, .invalid⟩ c).mode.shape
      simp only [step]
      split <;> rfl
  | blockComment star =>
      change (step ⟨.blockComment star, state⟩ c).mode.shape =
        (step ⟨.blockComment star, .invalid⟩ c).mode.shape
      simp only [step]
      split <;> rfl
  | quoted close =>
      change (step ⟨.quoted close, state⟩ c).mode.shape =
        (step ⟨.quoted close, .invalid⟩ c).mode.shape
      simp only [step]
      split <;> rfl

theorem run_shape {x y : Scan} (same : x.mode.shape = y.mode.shape) (text : List Char) :
    (x.run text).mode.shape = (y.run text).mode.shape := by
  induction text generalizing x y with
  | nil => exact same
  | cons c r ih => exact ih (by rw [step_shape x, step_shape y, same])

theorem run_reads {x y : Scan} (same : x.mode.shape = y.mode.shape) (text : List Char) :
    (x.run text).mode.reads = (y.run text).mode.reads := by
  rw [← Mode.reads_shape, run_shape same, Mode.reads_shape]

/-! ## Complete only behind a semicolon -/

/-- The state when the token that is being read ends here. -/
def settled (x : Scan) : State :=
  match x.mode with
  | .word seen => x.state.next (Token.ofWord seen.reverse)
  | .slash | .dash => x.state.next .other
  | .plain | .lineComment | .blockComment _ | .quoted _ => x.state

theorem step_semicolon {x : Scan} (reads : x.mode.reads) :
    x.step ';' = ⟨.plain, x.settled.next .semicolon⟩ := by
  obtain ⟨mode, state⟩ := x
  cases mode <;> first | rfl | cases reads

theorem state_of_accepts {x : Scan} (complete : x.accepts) : x.state = .start := by
  obtain ⟨mode, state⟩ := x
  cases mode <;> simp_all [accepts, State.next_ofWord_ne_start, State.next_other_ne_start]

theorem plainStep_start {state : State} {c : Char} (here : (plainStep state c).state = .start) :
    state = .start ∨ c = ';' := by
  unfold plainStep at here
  split_ifs at here with semicolon
  · exact .inr semicolon
  · obtain no | ⟨start, -⟩ := State.next_eq_start here
    · cases no
    · exact .inl start
  · exact .inl here
  · exact .inl here
  · exact .inl here
  · exact .inl here
  · exact .inl here
  · exact absurd here state.next_other_ne_start

theorem step_start {x : Scan} {c : Char} (here : (x.step c).state = .start) :
    x.state = .start ∨ (c = ';' ∧ x.mode.reads) := by
  obtain ⟨mode, state⟩ := x
  cases mode with
  | plain => exact (plainStep_start here).imp id fun semicolon => ⟨semicolon, rfl⟩
  | word seen =>
      simp only [step] at here
      split at here
      · exact .inl here
      · obtain no | semicolon := plainStep_start here
        · exact absurd no (state.next_ofWord_ne_start _)
        · exact .inr ⟨semicolon, rfl⟩
  | slash | dash =>
      simp only [step] at here
      split at here
      · exact .inl here
      · obtain no | semicolon := plainStep_start here
        · exact absurd no state.next_other_ne_start
        · exact .inr ⟨semicolon, rfl⟩
  | lineComment | blockComment star =>
      simp only [step] at here
      split at here
      · obtain no | ⟨start, -⟩ := State.next_eq_start here
        · cases no
        · exact .inl start
      · exact .inl here
  | quoted close =>
      simp only [step] at here
      split at here
      · exact absurd here state.next_other_ne_start
      · exact .inl here

/-- When a statement has ended, a semicolon that was read as one has ended one. -/
theorem exists_ending {x : Scan} {text : List Char} (here : (x.run text).state = .start)
    (before : x.state ≠ .start) :
    ∃ front, front ++ [';'] <+: text ∧ (x.run front).mode.reads ∧
      x.run (front ++ [';']) = ⟨.plain, .start⟩ := by
  induction text generalizing x with
  | nil => exact absurd here before
  | cons c r ih =>
      by_cases start : (x.step c).state = .start
      · obtain no | ⟨rfl, reads⟩ := step_start start
        · exact absurd no before
        · rw [step_semicolon reads] at start
          exact ⟨[], by simp, reads, (step_semicolon reads).trans (congrArg (Scan.mk .plain) start)⟩
      · obtain ⟨front, inside, reads, ended⟩ := ih here start
        exact ⟨c :: front, List.cons_prefix_cons.mpr ⟨rfl, inside⟩, reads, ended⟩

/-- When a statement has ended, a semicolon was read as one. -/
theorem exists_semicolon {x : Scan} {text : List Char} (here : (x.run text).state = .start)
    (before : x.state ≠ .start) : ∃ front, front ++ [';'] <+: text ∧ (x.run front).mode.reads := by
  obtain ⟨front, inside, reads, -⟩ := exists_ending here before
  exact ⟨front, inside, reads⟩

/-! ## A statement that begins with no keyword -/

/-- A statement has begun, and not with a keyword. -/
def Past (x : Scan) : Prop :=
  x.state = .normal ∨
    (x.state = .invalid ∧ ∃ seen c, x.mode = .word seen ∧ c ∈ seen ∧ Foreign c)

theorem Past.settled {x : Scan} (past : Past x) : x.settled = .normal := by
  obtain ⟨mode, state⟩ := x
  obtain normal | ⟨fresh, seen, c, word, inside, foreign⟩ := past
  · obtain rfl : state = .normal := normal
    cases mode with
    | word seen => exact State.next_ofWord_of_normal _
    | plain | slash | dash | lineComment | blockComment _ | quoted _ => rfl
  · obtain rfl : state = .invalid := fresh
    obtain rfl : mode = .word seen := word
    exact congrArg (State.next .invalid)
      (Token.ofWord_of_foreign (List.mem_reverse.mpr inside) foreign)

theorem Past.extend {seen : List Char} {state : State} (past : Past ⟨.word seen, state⟩)
    (c : Char) : Past ⟨.word (c :: seen), state⟩ := by
  obtain normal | ⟨fresh, old, d, word, inside, foreign⟩ := past
  · exact .inl normal
  · cases word
    exact .inr ⟨fresh, c :: seen, d, rfl, List.mem_cons_of_mem _ inside, foreign⟩

theorem past_plainStep (c : Char) :
    (c = ';' ∧ (plainStep .normal c).accepts) ∨ Past (plainStep .normal c) := by
  by_cases semicolon : c = ';'
  · subst semicolon
    exact .inl ⟨rfl, by decide⟩
  · refine .inr (.inl ?_)
    rw [plainStep, if_neg semicolon]
    split_ifs <;> rfl

/-- Nothing but a semicolon ends the statement, and the next one does. -/
theorem Past.step {x : Scan} (past : Past x) (c : Char) :
    (c = ';' ∧ (x.step c).accepts) ∨ Past (x.step c) := by
  have settled := past.settled
  obtain ⟨mode, state⟩ := x
  cases mode with
  | plain =>
      obtain rfl : state = .normal := settled
      exact past_plainStep c
  | word seen =>
      obtain settled : state.next (Token.ofWord seen.reverse) = .normal := settled
      simp only [Scan.step, settled]
      split
      · exact .inr (past.extend c)
      · exact past_plainStep c
  | slash | dash =>
      obtain settled : state.next .other = .normal := settled
      simp only [Scan.step, settled]
      split
      · obtain normal | ⟨-, _, _, word, -⟩ := past
        · exact .inr (.inl normal)
        · cases word
      · exact past_plainStep c
  | lineComment | blockComment star | quoted close =>
      obtain rfl : state = .normal := settled
      simp only [Scan.step]
      split <;> exact .inr (.inl rfl)

/-- A semicolon read as one ends the statement, unless an earlier one did. -/
theorem Past.ends {x : Scan} (past : Past x) {front : List Char}
    (reads : (x.run front).mode.reads) :
    ∃ first, first ++ [';'] <+: front ++ [';'] ∧ (x.run (first ++ [';'])).accepts := by
  induction front generalizing x with
  | nil =>
      refine ⟨[], List.prefix_rfl, ?_⟩
      have ended : x.step ';' = ⟨.plain, .start⟩ := by
        rw [step_semicolon (show x.mode.reads from reads), past.settled]
        rfl
      simp [run, ended, accepts]
  | cons c r ih =>
      obtain ⟨rfl, complete⟩ | past := past.step c
      · exact ⟨[], by simp, complete⟩
      · obtain ⟨first, inside, complete⟩ := ih past reads
        exact ⟨c :: first, List.cons_prefix_cons.mpr ⟨rfl, inside⟩, complete⟩

/-! ## Blanks and lines of comment -/

/-- Between tokens or in a word, when no statement has begun or one that a semicolon
will end. -/
def Idle (x : Scan) : Prop :=
  (x.mode = .plain ∨ ∃ seen, x.mode = .word seen) ∧ (x = .initial ∨ Past x)

theorem idle_initial : Idle .initial :=
  ⟨.inl rfl, .inl rfl⟩

theorem Idle.settled {x : Scan} (idle : Idle x) : x.settled = .invalid ∨ x.settled = .normal := by
  obtain rfl | past := idle.2
  · exact .inl rfl
  · exact .inr past.settled

theorem Idle.reads {x : Scan} (idle : Idle x) : x.mode.reads := by
  obtain plain | ⟨seen, word⟩ := idle.1
  · rw [plain]
    rfl
  · rw [word]
    rfl

theorem idle_plain {state : State} (early : state = .invalid ∨ state = .normal) :
    Idle ⟨.plain, state⟩ := by
  obtain rfl | rfl := early
  · exact idle_initial
  · exact ⟨.inl rfl, .inr (.inl rfl)⟩

theorem Idle.semicolon {x : Scan} (idle : Idle x) : (x.step ';').accepts := by
  rw [step_semicolon idle.reads]
  obtain state | state := idle.settled <;> rw [state] <;> decide

theorem idle_plainStep {state : State} {c : Char} (early : state = .invalid ∨ state = .normal)
    (blank : isBlank c) : Idle (plainStep state c) := by
  obtain same | same | ⟨foreign, same⟩ := plainStep_of_isBlank blank state <;> rw [same]
  · exact idle_plain (by obtain rfl | rfl := early <;> simp [State.next])
  · exact idle_plain (by obtain rfl | rfl := early <;> simp [State.next])
  · refine ⟨.inr ⟨_, rfl⟩, .inr ?_⟩
    obtain rfl | rfl := early
    · exact .inr ⟨rfl, [c], c, rfl, by simp, foreign⟩
    · exact .inl rfl

theorem Idle.step {x : Scan} (idle : Idle x) {c : Char} (blank : isBlank c) : Idle (x.step c) := by
  have settled := idle.settled
  obtain ⟨place, begun⟩ := idle
  obtain ⟨mode, state⟩ := x
  obtain rfl | ⟨seen, rfl⟩ : mode = .plain ∨ ∃ seen, mode = .word seen := place
  · exact idle_plainStep settled blank
  · simp only [Scan.step]
    split
    · have past : Past ⟨.word seen, state⟩ := begun.resolve_left (by simp [initial])
      exact ⟨.inr ⟨_, rfl⟩, .inr (past.extend c)⟩
    · exact idle_plainStep settled blank

theorem Idle.blanks {x : Scan} (idle : Idle x) {s : List Char} (blank : AllBlank s) :
    Idle (x.run s) := by
  induction s generalizing x with
  | nil => exact idle
  | cons c r ih =>
      exact ih (idle.step (blank c (by simp))) fun d inside =>
        blank d (List.mem_cons_of_mem _ inside)

theorem run_lineComment (state : State) {s : List Char} (single : '\n' ∉ s) :
    run ⟨.lineComment, state⟩ s = ⟨.lineComment, state⟩ := by
  induction s with
  | nil => rfl
  | cons c r ih =>
      simp only [List.mem_cons, not_or] at single
      have same : step ⟨.lineComment, state⟩ c = ⟨.lineComment, state⟩ :=
        if_neg fun newline => single.1 newline.symm
      exact (congrArg (run · r) same).trans (ih single.2)

/-- Two dashes begin a comment, which lasts as long as its line. -/
theorem Idle.dashes {x : Scan} (idle : Idle x) {s : List Char} (single : '\n' ∉ s) :
    x.run ('-' :: '-' :: s) = ⟨.lineComment, x.settled⟩ := by
  have opened : (x.step '-').step '-' = ⟨.lineComment, x.settled⟩ := by
    obtain ⟨mode, state⟩ := x
    obtain rfl | ⟨seen, rfl⟩ : mode = .plain ∨ ∃ seen, mode = .word seen := idle.1 <;> rfl
  change Scan.run ((x.step '-').step '-') s = _
  rw [opened, run_lineComment _ single]

/-- Two dashes begin a comment, and the line's end closes it. -/
theorem Idle.remark {x : Scan} (idle : Idle x) {s : List Char} (single : '\n' ∉ s) :
    Idle (x.run ('-' :: '-' :: s ++ ['\n'])) := by
  have settled := idle.settled
  have closed : x.run ('-' :: '-' :: s ++ ['\n']) = ⟨.plain, x.settled.next .blank⟩ := by
    rw [run_append, idle.dashes single]
    rfl
  rw [closed]
  exact idle_plain (by obtain state | state := settled <;> rw [state] <;> simp [State.next])

end Scan

end SqlDriver.Script
