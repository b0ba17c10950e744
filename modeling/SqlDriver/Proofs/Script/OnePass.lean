/-
# SqlDriver.Proofs.Script.OnePass -- one pass over the tokens finds every cut

The splitter asks of the text since the last cut, at each semicolon and from the start, whether
it is complete.  A reader that goes on from one character to the next and starts anew behind
each cut answers the same (`joints_chunksFrom`), and so does one that goes from token to token
(`cuts_run`): it stands `Between` two tokens when it has read one, and no statement ends within
a token, for none has ended when the token begins.

`cuts_of_one_pass`: the cuts of a script are the places that such a pass finds, all of them at
semicolons that are tokens, and the one that ends a trigger is that behind its `END`.
-/
import SqlDriver.Proofs.Script.Lexeme
import SqlDriver.Proofs.Script.Whole

namespace SqlDriver.Script

set_option autoImplicit false

/-! ## Places -/

/-- The places between the parts of a text that begins at a place. -/
def joints (place : Nat) : List (List Char) → List Nat
  | [] => []
  | [_] => []
  | part :: next :: more => (place + part.length) :: joints (place + part.length) (next :: more)

/-- The places behind which a script is cut. -/
def cuts (script : List Char) : List Nat :=
  joints 0 (chunks script)

/-- The cuts that a reader finds which goes on from one character to the next, and starts anew
behind each cut. -/
def cutsFrom (x : Scan) (place : Nat) : List Char → List Nat
  | [] => []
  | c :: r =>
      if c = ';' ∧ (x.step c).accepts then (place + 1) :: cutsFrom .initial (place + 1) r
      else cutsFrom (x.step c) (place + 1) r

theorem chunksFrom_ne_nil (seen s : List Char) : chunksFrom seen s ≠ [] := by
  induction s generalizing seen with
  | nil => simp [chunksFrom]
  | cons c r ih =>
      unfold chunksFrom
      split
      · simp
      · exact ih (c :: seen)

/-- Where a text since the last cut is asked for, the reader that goes on stands behind it. -/
theorem joints_chunksFrom (seen s : List Char) (clean : '\x00' ∉ seen.reverse ++ s)
    (place : Nat) : joints place (chunksFrom seen s) =
      cutsFrom (Scan.initial.run seen.reverse) (place + seen.length) s := by
  induction s generalizing seen place with
  | nil => rfl
  | cons c r ih =>
      have clean' : '\x00' ∉ (c :: seen).reverse ++ r := by simpa using clean
      have stands : Scan.initial.run (c :: seen).reverse =
          (Scan.initial.run seen.reverse).step c := by
        rw [List.reverse_cons, Scan.run_append]
        rfl
      have complete : isComplete (c :: seen).reverse =
          ((Scan.initial.run seen.reverse).step c).accepts := by
        rw [isComplete_of_clean fun nul => clean' (List.mem_append_left _ nul), stands]
      unfold chunksFrom cutsFrom
      rw [complete]
      by_cases here : c = ';' ∧ ((Scan.initial.run seen.reverse).step c).accepts
      · have rest := ih [] (fun nul => clean' (List.mem_append_right _ nul))
          (place + (c :: seen).length)
        rw [if_pos here, if_pos (by simpa using here)]
        obtain ⟨next, more, parts⟩ := List.exists_cons_of_ne_nil (chunksFrom_ne_nil [] r)
        rw [parts] at rest ⊢
        rw [joints, List.length_reverse, rest, List.length_cons, ← Nat.add_assoc]
        rfl
      · rw [if_neg here, if_neg (by simpa using here), ih _ clean', stands]
        simp [Nat.add_assoc]

theorem cuts_eq_cutsFrom {script : List Char} (clean : '\x00' ∉ script) :
    cuts script = cutsFrom .initial 0 script :=
  joints_chunksFrom [] script clean 0

/-- A text without a semicolon is not cut. -/
theorem cutsFrom_append {t : List Char} (none : ';' ∉ t) (x : Scan) (place : Nat)
    (r : List Char) : cutsFrom x place (t ++ r) = cutsFrom (x.run t) (place + t.length) r := by
  induction t generalizing x place with
  | nil => rfl
  | cons c t ih =>
      simp only [List.mem_cons, not_or] at none
      have other : ¬ (c = ';' ∧ (x.step c).accepts) := fun here => none.1 here.1.symm
      rw [List.cons_append, cutsFrom, if_neg other, ih none.2, Nat.add_assoc,
        Nat.add_comm 1, List.length_cons]
      rfl

/-! ## Within a token -/

namespace Enclosure

/-- Where the reader stands behind what opens it. -/
def inside : Enclosure → Mode
  | literal => .quoted '\''
  | quotedName => .quoted '"'
  | backquotedName => .quoted '\x60'
  | bracketedName => .quoted ']'
  | lineComment => .lineComment
  | blockComment => .blockComment false

/-- The reader is inside, with the text `s` to come.  It may have seen half of a mark, if the
other half does not follow. -/
def Holds (e : Enclosure) (m : Mode) (s : List Char) : Prop :=
  m = e.inside ∨ (e = blockComment ∧ m = .blockComment true ∧ ¬ ['/'] <+: s)

variable {e : Enclosure} {m : Mode} {c : Char} {s r : List Char}

theorem Holds.step (holds : e.Holds m (c :: r)) (open_still : ¬ e.closes <+: c :: r)
    (state : State) : ∃ m', Scan.step ⟨m, state⟩ c = ⟨m', state⟩ ∧ e.Holds m' r := by
  rcases holds with rfl | ⟨rfl, rfl, other⟩
  · cases e with
    | literal | quotedName | backquotedName | bracketedName | lineComment =>
        refine ⟨_, if_neg ?_, .inl rfl⟩
        rintro rfl
        simp [closes] at open_still
    | blockComment =>
        refine ⟨.blockComment (c = '*'), by simp [Scan.step, inside], ?_⟩
        by_cases star : c = '*'
        · subst star
          exact .inr ⟨rfl, rfl, by simpa [closes] using open_still⟩
        · exact .inl (by simp [star, inside])
  · have slash : c ≠ '/' := by
      rintro rfl
      simp at other
    refine ⟨.blockComment (c = '*'), by simp [Scan.step, slash], ?_⟩
    by_cases star : c = '*'
    · subst star
      exact .inr ⟨rfl, rfl, by simpa [closes] using open_still⟩
    · exact .inl (by simp [star, inside])

theorem Holds.run_closes (holds : e.Holds m s) (state : State) :
    Scan.run ⟨m, state⟩ e.closes = ⟨.plain, state.next e.token⟩ := by
  rcases holds with rfl | ⟨rfl, rfl, -⟩
  · cases e <;> rfl
  · rfl

/-- Inside nothing is cut, for no statement ends there. -/
theorem Holds.cutsFrom (holds : e.Holds m s) {state : State} (early : state ≠ .start)
    (place : Nat) : cutsFrom ⟨m, state⟩ place s =
      match upTo e.closes s with
      | (inner, some rest) =>
          cutsFrom ⟨.plain, state.next e.token⟩ (place + (inner ++ e.closes).length) rest
      | (_, none) => [] := by
  induction s generalizing m place with
  | nil => rfl
  | cons c r ih =>
      by_cases closed : e.closes <+: c :: r
      · obtain ⟨rest, whole⟩ := closed
        have none : ';' ∉ e.closes := by cases e <;> decide
        have found : upTo e.closes (c :: r) = ([], some rest) := by
          rw [upTo, if_pos ⟨rest, whole⟩, ← whole, List.drop_left]
        rw [found, ← whole, cutsFrom_append none, holds.run_closes]
        rfl
      · obtain ⟨m', stepped, holds'⟩ := holds.step closed state
        have quiet : ¬ (c = ';' ∧ (Scan.step ⟨m, state⟩ c).accepts) := by
          rintro ⟨-, complete⟩
          rw [stepped] at complete
          exact early (Scan.state_of_accepts complete)
        rw [Script.cutsFrom, if_neg quiet, stepped, ih holds', upTo, if_neg closed]
        rcases upTo e.closes r with ⟨inner, rest | rest⟩
        · rfl
        · simp only [List.cons_append, List.length_cons]
          rw [Nat.add_assoc, Nat.add_comm 1]

end Enclosure

/-! ## Between tokens -/

theorem State.next_ne_start {state : State} {token : Token} (early : state ≠ .start)
    (other : token ≠ .semicolon) : state.next token ≠ .start := by
  intro here
  rcases next_eq_start here with semicolon | ⟨start, -⟩
  · exact other semicolon
  · exact early start

/-- The reader has read a token, no statement has ended, and the next token begins with the next
character. -/
structure Between (x : Scan) (s : List Char) : Prop where
  early : x.settled ≠ .start
  begins : ∀ c r, s = c :: r → x.step c = Scan.plainStep x.settled c

section Between

variable {x : Scan} {c : Char} {r s : List Char}

theorem between_plain {state : State} (early : state ≠ .start) (s : List Char) :
    Between ⟨.plain, state⟩ s where
  early := early
  begins _ _ _ := rfl

theorem Between.run_opens (between : Between x s) {e : Enclosure} (opens : e.opens <+: s) :
    x.run e.opens = ⟨e.inside, x.settled⟩ := by
  obtain ⟨t, rfl⟩ := opens
  cases e with
  | literal | quotedName | backquotedName | bracketedName =>
      exact between.begins _ t rfl
  | lineComment =>
      have first := between.begins '-' ('-' :: t) rfl
      calc x.run ['-', '-'] = (x.step '-').step '-' := rfl
        _ = ⟨.lineComment, x.settled⟩ := by rw [first]; rfl
  | blockComment =>
      have first := between.begins '/' ('*' :: t) rfl
      calc x.run ['/', '*'] = (x.step '/').step '*' := rfl
        _ = ⟨.blockComment false, x.settled⟩ := by rw [first]; rfl

theorem run_word (seen w : List Char) (state : State) (inside : ∀ d ∈ w, isWordChar d) :
    Scan.run ⟨.word seen, state⟩ w = ⟨.word (w.reverse ++ seen), state⟩ := by
  induction w generalizing seen with
  | nil => rfl
  | cons d w ih =>
      have here : Scan.step ⟨.word seen, state⟩ d = ⟨.word (d :: seen), state⟩ :=
        if_pos (inside d (by simp))
      have rest := ih (d :: seen) fun c later => inside c (by simp [later])
      calc Scan.run ⟨.word seen, state⟩ (d :: w)
          = Scan.run (Scan.step ⟨.word seen, state⟩ d) w := rfl
        _ = ⟨.word ((d :: w).reverse ++ seen), state⟩ := by rw [here, rest]; simp

/-- A word is read to its last character. -/
theorem between_word (state : State) (seen r : List Char) :
    Between ⟨.word seen, state⟩ (r.dropWhile isWordChar) where
  early := state.next_ofWord_ne_start seen.reverse
  begins d t rest := by
    have outside : isWordChar d = false := by
      have first := List.head?_dropWhile_not isWordChar r
      rw [rest] at first
      simpa using first
    exact if_neg (by simp [outside])

/-- A character that begins nothing is a token, also one that might have begun a comment. -/
theorem between_other (state : State) (begins : Enclosure.opening? (c :: r) = none)
    (semicolon : c ≠ ';') (space : ¬ isSpace c) (outside : ¬ isWordChar c) :
    (Scan.plainStep state c).settled = state.next .other ∧
      Between (Scan.plainStep state c) r := by
  have opens := Enclosure.not_opens_of_opening? begins
  have early : state.next .other ≠ .start := state.next_other_ne_start
  by_cases slash : c = '/'
  · subst slash
    refine ⟨rfl, early, ?_⟩
    rintro d t rfl
    have star : d ≠ '*' := by
      rintro rfl
      exact opens .blockComment ⟨t, rfl⟩
    exact if_neg star
  by_cases dash : c = '-'
  · subst dash
    refine ⟨rfl, early, ?_⟩
    rintro d t rfl
    have single : d ≠ '-' := by
      rintro rfl
      exact opens .lineComment ⟨t, rfl⟩
    exact if_neg single
  have none_of (e : Enclosure) (d : Char) (single : e.opens = [d]) : c ≠ d := by
    rintro rfl
    exact opens e ⟨r, by rw [single]; rfl⟩
  have backquote : c.toNat ≠ 0x60 := by
    intro same
    refine none_of .backquotedName '\x60' rfl ?_
    rw [← Char.ofNat_toNat c, same]
  have stays : Scan.plainStep state c = ⟨.plain, state.next .other⟩ := by
    simp [Scan.plainStep, semicolon, space, outside, slash, dash, backquote,
      none_of .literal '\'' rfl, none_of .quotedName '"' rfl, none_of .bracketedName '[' rfl]
  rw [stays]
  exact ⟨rfl, between_plain early r⟩

end Between

/-! ## The pass -/

/-- The length of the text of some tokens. -/
def extent (ls : List Lexeme) : Nat :=
  (ls.flatMap Lexeme.text).length

@[simp] theorem extent_append (a b : List Lexeme) : extent (a ++ b) = extent a + extent b := by
  simp [extent]

theorem extent_cons (l : Lexeme) (ls : List Lexeme) :
    extent (l :: ls) = l.text.length + extent ls := by
  simp [extent]

@[simp] theorem extent_semicolon : extent [.semicolon] = 1 := rfl

theorem eq_nil_of_extent {ls : List Lexeme} (empty : extent ls = 0) : ls = [] := by
  cases ls with
  | nil => rfl
  | cons l ls =>
      rw [extent_cons] at empty
      have some_text := List.length_pos_iff.mpr l.text_ne_nil
      omega

/-- There is one place in a list of tokens for each place in their text. -/
theorem eq_of_extent {a b a' b' : List Lexeme} (same : a ++ b = a' ++ b')
    (place : extent a = extent a') : a = a' ∧ b = b' := by
  rcases List.append_eq_append_iff.mp same with ⟨more, rfl, rfl⟩ | ⟨more, rfl, rfl⟩
  · have none_more : more = [] := eq_nil_of_extent (by rw [extent_append] at place; omega)
    simp [none_more]
  · have none_more : more = [] := eq_nil_of_extent (by rw [extent_append] at place; omega)
    simp [none_more]

/-- Where a reader of tokens is, and the cuts that it has found. -/
structure Pass where
  state : State := .invalid
  place : Nat := 0
  cuts : List Nat := []

namespace Pass

/-- Reads a token.  A semicolon that completes a statement is a cut, and the reader starts
anew. -/
def read (p : Pass) (l : Lexeme) : Pass :=
  if l = .semicolon ∧ p.state.next l.token = .start then
    ⟨.invalid, p.place + l.text.length, p.cuts ++ [p.place + l.text.length]⟩
  else ⟨p.state.next l.token, p.place + l.text.length, p.cuts⟩

def run (p : Pass) (ls : List Lexeme) : Pass :=
  ls.foldl read p

theorem run_append (p : Pass) (a b : List Lexeme) : p.run (a ++ b) = (p.run a).run b := by
  simp [run]

variable {p : Pass} {l : Lexeme} {ls front back : List Lexeme}

theorem read_cut (ends : p.state.next .semicolon = .start) :
    p.read .semicolon = ⟨.invalid, p.place + 1, p.cuts ++ [p.place + 1]⟩ :=
  if_pos ⟨rfl, ends⟩

theorem read_uncut (goes_on : l = .semicolon → p.state.next .semicolon ≠ .start) :
    p.read l = ⟨p.state.next l.token, p.place + l.text.length, p.cuts⟩ := by
  apply if_neg
  rintro ⟨rfl, ends⟩
  exact goes_on rfl ends

theorem place_run (p : Pass) (ls : List Lexeme) : (p.run ls).place = p.place + extent ls := by
  induction ls generalizing p with
  | nil => rfl
  | cons l ls ih =>
      have read : (p.read l).place = p.place + l.text.length := by
        unfold read
        split <;> rfl
      calc (p.run (l :: ls)).place = ((p.read l).run ls).place := rfl
        _ = p.place + extent (l :: ls) := by rw [ih, read, extent_cons, Nat.add_assoc]

/-- The cuts of a run are at the semicolons that complete a statement. -/
theorem mem_cuts_run (n : Nat) : n ∈ (run {} ls).cuts ↔
    ∃ front back, ls = front ++ .semicolon :: back ∧
      (run {} front).state.next .semicolon = .start ∧ n = extent (front ++ [.semicolon]) := by
  induction ls using List.reverseRecOn with
  | nil => simp [run]
  | append_singleton ls l ih =>
      have last : run {} (ls ++ [l]) = (run {} ls).read l := by
        rw [run_append]
        rfl
      have place : (run {} ls).place = extent ls := (place_run {} ls).trans (Nat.zero_add _)
      rw [last]
      constructor
      · intro inside
        by_cases cut : l = .semicolon ∧ (run {} ls).state.next .semicolon = .start
        · obtain ⟨rfl, ends⟩ := cut
          rw [read_cut ends, List.mem_append, List.mem_singleton, ih] at inside
          rcases inside with ⟨front, back, rfl, complete, rfl⟩ | rfl
          · exact ⟨front, back ++ [.semicolon], by simp, complete, rfl⟩
          · exact ⟨ls, [], rfl, ends, by simp [place]⟩
        · rw [read_uncut fun semicolon ends => cut ⟨semicolon, ends⟩, ih] at inside
          obtain ⟨front, back, rfl, complete, rfl⟩ := inside
          exact ⟨front, back ++ [l], by simp, complete, rfl⟩
      · rintro ⟨front, back, same, complete, rfl⟩
        -- the semicolon is the last token, or among those before
        obtain rfl | ⟨back, u, rfl⟩ := List.eq_nil_or_concat back
        · obtain ⟨rfl, final⟩ := List.append_inj' same rfl
          obtain rfl := List.singleton_inj.mp final
          rw [read_cut complete]
          simp [place]
        · have parts : ls ++ [l] = (front ++ .semicolon :: back) ++ [u] := by simpa using same
          obtain ⟨rfl, -⟩ := List.append_inj' parts rfl
          have earlier := ih.mpr ⟨front, back, rfl, complete, rfl⟩
          unfold read
          split
          · exact List.mem_append_left _ earlier
          · exact earlier

/-- Where no semicolon completes a statement, the pass goes from state to state. -/
theorem state_run {p : Pass} {ls : List Lexeme} (goes_on : ∀ a b, ls = a ++ .semicolon :: b →
    (p.state.run (a.map Lexeme.token)).next .semicolon ≠ .start) :
    (p.run ls).state = p.state.run (ls.map Lexeme.token) := by
  induction ls using List.reverseRecOn with
  | nil => rfl
  | append_singleton ls l ih =>
      have before := ih fun a b same => goes_on a (b ++ [l]) (by simp [same])
      have uncut : l = .semicolon → (p.run ls).state.next .semicolon ≠ .start := by
        rintro rfl
        rw [before]
        exact goes_on ls [] rfl
      rw [run_append, List.map_append, State.run_append, ← before]
      exact congrArg Pass.state (read_uncut uncut)

/-- A body that does not close its trigger does not close it early. -/
theorem no_early_end {body : List Lexeme}
    (goes_on : ∀ a b, body = a ++ .semicolon :: b → ¬ ClosesTrigger (a.map Lexeme.token))
    (front rest : List Token) (parts : body.map Lexeme.token = front ++ .semicolon :: rest) :
    ¬ ClosesTrigger front := by
  obtain ⟨a, more, rfl, rfl, tail⟩ := List.map_eq_append_iff.mp parts
  obtain ⟨l, b, rfl, token, -⟩ := List.map_eq_cons_iff.mp tail
  obtain rfl := l.token_eq_semicolon_iff.mp token
  exact goes_on a b rfl

/-- In the statement of a trigger the pass goes from state to state. -/
theorem state_run_trigger {head body : List Lexeme} (fresh : (run {} front).state = .invalid)
    (opens : OpensTrigger (head.map Lexeme.token))
    (goes_on : ∀ a b, body = a ++ .semicolon :: b → ¬ ClosesTrigger (a.map Lexeme.token)) :
    (run {} (front ++ (head ++ body))).state = State.trigger.run (body.map Lexeme.token) := by
  have opened : ((run {} front).run head).state = .trigger := by
    rw [state_run, fresh, State.run_opensTrigger opens]
    rintro a b rfl
    have inside : Token.semicolon ∈ (a ++ .semicolon :: b).map Lexeme.token :=
      List.mem_map.mpr ⟨Lexeme.semicolon, by simp, rfl⟩
    exact absurd inside opens.no_semicolon
  rw [run_append, run_append, state_run, opened]
  rintro a b rfl
  have early : ∀ c d, a = c ++ .semicolon :: d → ¬ ClosesTrigger (c.map Lexeme.token) := by
    rintro c d rfl
    exact goes_on c (d ++ .semicolon :: b) (by simp)
  rw [opened, ne_eq, State.run_body_ends (no_early_end early)]
  exact goes_on a b rfl

/-- Behind a cut, and before anything, the pass is in its first state. -/
theorem state_of_cut (place : extent front ∈ 0 :: (run {} (front ++ back)).cuts) :
    (run {} front).state = .invalid := by
  rcases List.mem_cons.mp place with empty | cut
  · rw [eq_nil_of_extent empty]
    rfl
  · obtain ⟨earlier, later, same, complete, reached⟩ := (mem_cuts_run _).mp cut
    have parts : front ++ back = (earlier ++ [.semicolon]) ++ later := by simpa using same
    obtain ⟨rfl, -⟩ := eq_of_extent parts reached
    rw [run_append]
    exact congrArg Pass.state (read_cut complete)

end Pass

section Reading

variable {x : Scan} {c : Char} {r s : List Char} {p : Pass}

/-- The pass goes over a token as the reader of characters goes over its text, from between tokens
to between tokens. -/
theorem cuts_run_cons {l : Lexeme} {ls : List Lexeme} (same : p.state = x.settled)
    (goes_on : l = .semicolon → x.settled.next .semicolon ≠ .start)
    (x' : Scan) (rest : List Char)
    (goes : cutsFrom x p.place s = cutsFrom x' (p.place + l.text.length) rest)
    (settles : x'.settled = x.settled.next l.token)
    (later : ∀ {p : Pass}, p.state = x'.settled →
      (p.run ls).cuts = p.cuts ++ cutsFrom x' p.place rest) :
    (p.run (l :: ls)).cuts = p.cuts ++ cutsFrom x p.place s := by
  have first : p.run (l :: ls) =
      (Pass.mk (p.state.next l.token) (p.place + l.text.length) p.cuts).run ls :=
    congrArg (Pass.run · ls) (Pass.read_uncut (by rwa [same]))
  have state : p.state.next l.token = x'.settled := by rw [same, settles]
  rw [first, goes]
  exact later state

/-- Nothing is cut inside of an enclosure; it is passed up to its close. -/
theorem cutsFrom_enclosed (between : Between x s) {e : Enclosure} (opens : e.opens <+: s)
    (place : Nat) : cutsFrom x place s =
      match upTo e.closes (s.drop e.opens.length) with
      | (inner, some rest) => cutsFrom ⟨.plain, x.settled.next e.token⟩
          (place + (Lexeme.enclosed e inner true).text.length) rest
      | (_, none) => [] := by
  have opened := between.run_opens opens
  obtain ⟨t, rfl⟩ := opens
  have none : ';' ∉ e.opens := by cases e <;> decide
  have inside : e.Holds e.inside t := .inl rfl
  rw [cutsFrom_append none, opened, inside.cutsFrom between.early, List.drop_left]
  rcases upTo e.closes t with ⟨inner, rest | rest⟩
  · rfl
  · simp [Lexeme.text, Nat.add_assoc]

/-- Nothing is cut inside of a word; it is passed whole. -/
theorem cutsFrom_word (between : Between x (c :: r)) (inside : isWordChar c) (place : Nat) :
    cutsFrom x place (c :: r) =
      cutsFrom ⟨.word (c :: r.takeWhile isWordChar).reverse, x.settled⟩
        (place + (c :: r.takeWhile isWordChar).length) (r.dropWhile isWordChar) := by
  have all : ∀ d ∈ r.takeWhile isWordChar, isWordChar d := by
    intro d among
    exact List.mem_takeWhile_imp among
  have none : ';' ∉ c :: r.takeWhile isWordChar := by
    intro among
    rcases List.mem_cons.mp among with rfl | among
    · exact absurd inside (by decide)
    · exact absurd (all _ among) (by decide)
  have first : x.step c = ⟨.word [c], x.settled⟩ := by
    rw [between.begins c r rfl, Scan.plainStep_of_isWordChar inside]
  have ran : x.run (c :: r.takeWhile isWordChar) =
      ⟨.word (c :: r.takeWhile isWordChar).reverse, x.settled⟩ := by
    calc x.run (c :: r.takeWhile isWordChar)
        = (x.step c).run (r.takeWhile isWordChar) := rfl
      _ = ⟨.word (c :: r.takeWhile isWordChar).reverse, x.settled⟩ := by
        rw [first, run_word [c] _ _ all, List.reverse_cons]
  have whole : c :: r = (c :: r.takeWhile isWordChar) ++ r.dropWhile isWordChar := by
    rw [List.cons_append, List.takeWhile_append_dropWhile]
  conv_lhs => rw [whole]
  rw [cutsFrom_append none, ran]

/-- The pass over the tokens finds the cuts that the reader of characters finds. -/
theorem cuts_run (between : Between x s) (same : p.state = x.settled) :
    (p.run (lexemes s)).cuts = p.cuts ++ cutsFrom x p.place s := by
  have early := between.early
  fun_induction lexemes s generalizing x p with
  | case1 => simp [Pass.run, cutsFrom]
  | case2 c r e begins inner rest there ih =>
      have after : x.settled.next e.token ≠ .start :=
        State.next_ne_start early (by cases e <;> decide)
      apply cuts_run_cons same (by simp) ⟨.plain, x.settled.next e.token⟩ rest
      · rw [cutsFrom_enclosed between (Enclosure.opens_of_opening? begins), there]
      · rfl
      · intro p same
        exact ih (between_plain after rest) same after
  | case3 c r e begins inner there =>
      -- what is not closed holds all that is left, and neither reader finds a cut in it
      have last : p.run [.enclosed e inner false] = p.read (.enclosed e inner false) := rfl
      rw [cutsFrom_enclosed between (Enclosure.opens_of_opening? begins), there, last,
        Pass.read_uncut (by simp), List.append_nil]
  | case4 r begins ih =>
      have step : x.step ';' = ⟨.plain, x.settled.next .semicolon⟩ := between.begins ';' r rfl
      by_cases ends : x.settled.next .semicolon = .start
      · have cut := Pass.read_cut (p := p) (by rw [same]; exact ends)
        -- both readers start anew, between tokens and with no statement ended
        have fresh : State.invalid ≠ .start := by decide
        have rest := ih (p := p.read .semicolon) (between_plain fresh r) (by rw [cut]; rfl) fresh
        have accepted : (x.step ';').accepts := by
          rw [step]
          exact decide_eq_true ends
        rw [cutsFrom, if_pos ⟨rfl, accepted⟩]
        calc (p.run (.semicolon :: lexemes r)).cuts
            = ((p.read .semicolon).run (lexemes r)).cuts := rfl
          _ = p.cuts ++ (p.place + 1) :: cutsFrom .initial (p.place + 1) r := by
            rw [rest, cut, List.append_assoc]
            rfl
      · apply cuts_run_cons same (fun _ => ends) ⟨.plain, x.settled.next .semicolon⟩ r
        · have refused : ¬ (x.step ';').accepts := by
            rw [step]
            exact fun accepted => ends (of_decide_eq_true accepted)
          rw [cutsFrom, if_neg fun cut => refused cut.2, step]
          rfl
        · rfl
        · intro p same
          exact ih (between_plain ends r) same ends
  | case5 c r begins other space ih =>
      have after : x.settled.next .blank ≠ .start := State.next_ne_start early (by decide)
      have step : x.step c = ⟨.plain, x.settled.next .blank⟩ := by
        rw [between.begins c r rfl, Scan.plainStep, if_neg other, if_pos space]
      apply cuts_run_cons same (by simp) ⟨.plain, x.settled.next .blank⟩ r
      · rw [cutsFrom, if_neg fun cut => other cut.1, step]
        rfl
      · rfl
      · intro p same
        exact ih (between_plain after r) same after
  | case6 c r begins other dark inside ih =>
      apply cuts_run_cons same (by simp)
        ⟨.word (c :: r.takeWhile isWordChar).reverse, x.settled⟩ (r.dropWhile isWordChar)
      · exact cutsFrom_word between inside p.place
      · simp [Scan.settled, Lexeme.token]
      · intro p same
        have after := between_word x.settled (c :: r.takeWhile isWordChar).reverse r
        exact ih after same after.early
  | case7 c r begins other dark outside ih =>
      obtain ⟨settles, after⟩ := between_other x.settled begins other dark outside
      apply cuts_run_cons same (by simp) (Scan.plainStep x.settled c) r
      · rw [cutsFrom, if_neg fun cut => other cut.1, between.begins c r rfl]
        rfl
      · exact settles
      · intro p same
        exact ih after same after.early

end Reading

/-! ## Scripts -/

section Script

variable {script : List Char} (clean : '\x00' ∉ script)

include clean

theorem cuts_eq_run : cuts script = (Pass.run {} (lexemes script)).cuts := by
  have between : Between .initial script := between_plain (by decide) script
  have found := cuts_run between (p := {}) rfl
  rw [cuts_eq_cutsFrom clean, found]
  rfl

/-- A script is cut behind the semicolons that end a statement, and only there. -/
theorem mem_cuts (n : Nat) : n ∈ cuts script ↔
    ∃ front back, lexemes script = front ++ .semicolon :: back ∧
      (Pass.run {} front).state.next .semicolon = .start ∧
        n = extent (front ++ [.semicolon]) := by
  rw [cuts_eq_run clean]
  exact Pass.mem_cuts_run n

/-- A semicolon within a token that is more than that is no cut. -/
theorem not_mem_cuts_within {front back : List Lexeme} {l : Lexeme}
    (tokens : lexemes script = front ++ l :: back) (other : l ≠ .semicolon) {i : Nat}
    (within : i < l.text.length) : extent front + i + 1 ∉ cuts script := by
  intro cut
  obtain ⟨earlier, later, same, -, reached⟩ := (mem_cuts clean _).mp cut
  have parts : (earlier ++ [.semicolon]) ++ later = front ++ l :: back := by
    rw [← tokens, same]
    simp
  rcases List.append_eq_append_iff.mp parts with ⟨more, rfl, -⟩ | ⟨more, ends, rest⟩
  · rw [extent_append] at reached
    omega
  · rw [ends, extent_append] at reached
    cases more with
    | nil =>
        change extent front + i + 1 = extent front + 0 at reached
        omega
    | cons l' more =>
        obtain ⟨rfl, -⟩ := List.cons.inj rest
        rw [extent_cons] at reached
        have none_more : more = [] := eq_nil_of_extent (by omega)
        rw [none_more] at ends
        obtain ⟨-, final⟩ := List.append_inj' ends rfl
        exact other (List.singleton_inj.mp final).symm

/-- In the statement of a trigger, a semicolon is a cut if `END` stands in front of it, behind
another semicolon of the body, and otherwise not. -/
theorem mem_cuts_trigger {front head body back : List Lexeme}
    (tokens : lexemes script = front ++ (head ++ (body ++ .semicolon :: back)))
    (begins : extent front ∈ 0 :: cuts script) (opens : OpensTrigger (head.map Lexeme.token))
    (goes_on : ∀ a b, body = a ++ .semicolon :: b → ¬ ClosesTrigger (a.map Lexeme.token)) :
    extent (front ++ (head ++ (body ++ [.semicolon]))) ∈ cuts script ↔
      ClosesTrigger (body.map Lexeme.token) := by
  have fresh : (Pass.run {} front).state = .invalid := by
    rw [cuts_eq_run clean, tokens] at begins
    exact Pass.state_of_cut begins
  have reached := Pass.state_run_trigger fresh opens goes_on
  rw [← State.run_body_ends (Pass.no_early_end goes_on), ← reached, mem_cuts clean]
  constructor
  · rintro ⟨earlier, later, same, complete, place⟩
    have parts : (front ++ (head ++ body)) ++ .semicolon :: back =
        earlier ++ .semicolon :: later := by
      rw [← same, tokens]
      simp
    have before : extent (front ++ (head ++ body)) = extent earlier := by
      simp only [extent_append, extent_semicolon] at place ⊢
      omega
    obtain ⟨rfl, -⟩ := eq_of_extent parts before
    exact complete
  · intro complete
    refine ⟨front ++ (head ++ body), back, ?_, complete, ?_⟩
    · rw [tokens]
      simp
    · simp

/-- A script is cut where one pass over its tokens, which starts anew behind each cut, reads a
semicolon and has then come to the end of a statement.  No other token is cut, whatever it
holds, and so no literal, quoted name or comment is; and of the semicolons in a trigger the
first that is a cut is the one behind `END` behind a semicolon of its body. -/
theorem cuts_of_one_pass :
    (lexemes script).flatMap Lexeme.text = script ∧
    cuts script = (Pass.run {} (lexemes script)).cuts ∧
    (∀ n, n ∈ cuts script ↔ ∃ front back, lexemes script = front ++ .semicolon :: back ∧
      (Pass.run {} front).state.next .semicolon = .start ∧
        n = extent (front ++ [.semicolon])) ∧
    (∀ front l back, lexemes script = front ++ l :: back → l ≠ .semicolon →
      ∀ i < l.text.length, extent front + i + 1 ∉ cuts script) ∧
    ∀ front head body back,
      lexemes script = front ++ (head ++ (body ++ .semicolon :: back)) →
      extent front ∈ 0 :: cuts script → OpensTrigger (head.map Lexeme.token) →
      (∀ a b, body = a ++ .semicolon :: b → ¬ ClosesTrigger (a.map Lexeme.token)) →
      (extent (front ++ (head ++ (body ++ [.semicolon]))) ∈ cuts script ↔
        ClosesTrigger (body.map Lexeme.token)) := by
  refine ⟨lexemes_text script, cuts_eq_run clean, mem_cuts clean, ?_, ?_⟩
  · intro front l back tokens other i within
    exact not_mem_cuts_within clean tokens other within
  · intro front head body back tokens begins opens goes_on
    exact mem_cuts_trigger clean tokens begins opens goes_on

end Script

/-- Semicolons in a comment, in a literal and in the body of a trigger, and three that are
cuts. -/
theorem cuts_of_one_pass_of_trigger :
    let script := "-- a;\nSELECT ';';CREATE TRIGGER t BEGIN DELETE FROM s; END;;".toList
    '\x00' ∉ script ∧ (Pass.run {} (lexemes script)).cuts = [17, 59, 60] := by
  intro script
  have clean : '\x00' ∉ script := by decide +kernel
  obtain ⟨-, one_pass, -⟩ := cuts_of_one_pass clean
  refine ⟨clean, ?_⟩
  rw [← one_pass]
  decide +kernel

end SqlDriver.Script
