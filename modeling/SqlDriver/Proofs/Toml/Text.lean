/-
# SqlDriver.Proofs.Toml.Text -- texts in quotes are framed

A text on one line has to be closed before the line ends.  A text of several lines may hold line
ends but has to be closed as well, so that what is read of it ends in front of the last line end
(`quotedText_framed`).

The loops over the characters of a text run on fuel, of which a longer text is given more.
`loop_agrees` carries the induction for all of them: `AgreesBehind` is what one turn may assume of
the next.
-/
import SqlDriver.Proofs.Toml.Framing

namespace SqlDriver.Toml

set_option autoImplicit false

/-! ## Texts in quotes -/

section Quotes

/-- A row of characters that a line end ends does not reach it. -/
theorem take_of_all {p : Char → Bool} (stops : p '\n' = false) {size : Nat} {u : List Char}
    (ends : EndsLine u) (all : (u.take size).all p) (long : (u.take size).length = size)
    (t : List Char) :
    (u ++ t).take size = u.take size ∧ (u ++ t).drop size = u.drop size ++ t ∧
      EndsLine (u.drop size) := by
  have within : size < u.length := by
    have le : size ≤ u.length := by
      rw [← long, List.length_take]
      exact Nat.min_le_right ..
    refine Nat.lt_of_le_of_ne le fun same => ?_
    rw [same, List.take_length, List.all_eq_true] at all
    have last := all '\n' (List.mem_of_getLast? ends)
    rw [stops] at last
    cases last
  refine ⟨List.take_append_of_le_length (Nat.le_of_lt within),
    List.drop_append_of_le_length (Nat.le_of_lt within),
    ends.of_suffix (List.drop_suffix size u) ?_⟩
  rw [ne_eq, List.drop_eq_nil_iff]
  omega

theorem codePoint_framed (size : Nat) : Framed (codePoint size) := by
  intro u t ends
  unfold codePoint
  by_cases long : ((u.take size).takeWhile isHexDigit).length = size
  · have whole : (u.take size).takeWhile isHexDigit = u.take size := by
      refine (List.takeWhile_prefix _).eq_of_length (Nat.le_antisymm ?_ ?_)
      · exact (List.takeWhile_prefix _).length_le
      · rw [long, List.length_take]
        exact Nat.min_le_left ..
    have all : (u.take size).all isHexDigit := by
      rw [← whole]
      exact List.all_takeWhile
    obtain ⟨take, drop, ends'⟩ := take_of_all rfl ends all (whole ▸ long) t
    rw [take, drop]
    dsimp only
    rw [if_neg (not_not_intro long), if_neg (not_not_intro long)]
    split
    · exact .ok _ ends' (List.drop_suffix size u)
    · exact .refuse _
  · dsimp only
    rw [if_pos long]
    exact .refuse _

theorem escaped_framed : Framed escaped := by
  intro u t ends
  unfold escaped
  split
  · cases ends
  · exact .ok _ (ends.tail (by decide)) (List.suffix_cons ..)
  · exact .ok _ (ends.tail (by decide)) (List.suffix_cons ..)
  · exact .ok _ (ends.tail (by decide)) (List.suffix_cons ..)
  · exact .ok _ (ends.tail (by decide)) (List.suffix_cons ..)
  · exact .ok _ (ends.tail (by decide)) (List.suffix_cons ..)
  · exact .ok _ (ends.tail (by decide)) (List.suffix_cons ..)
  · exact .ok _ (ends.tail (by decide)) (List.suffix_cons ..)
  · exact (codePoint_framed 4 _ t (ends.tail (by decide))).longer (List.suffix_cons ..)
  · exact (codePoint_framed 8 _ t (ends.tail (by decide))).longer (List.suffix_cons ..)
  · exact .refuse _

theorem literalBody_framed : Framed literalBody := by
  intro u t ends
  unfold literalBody
  dsimp only
  have stops : (isPlain '\n' && '\n' ≠ '\'') = false := rfl
  obtain ⟨ends', suffix, same⟩ :=
    dropWhile_trims (p := fun c => isPlain c && c ≠ '\'') stops u t ends
  rw [same, takeWhile_append stops ends]
  generalize u.dropWhile (fun c => isPlain c && c ≠ '\'') = rest at ends' suffix
  split
  · exact .ok _ (ends'.tail (by decide)) ((List.suffix_cons ..).trans suffix)
  · exact .refuse _

end Quotes

/-! ## Texts of several lines -/

/-- A text ends with a line end, or is empty. -/
def Ending (u : List Char) : Prop :=
  u ≠ [] → EndsLine u

namespace Ending

variable {u r t : List Char}

theorem of_suffix (ending : Ending u) (suffix : r <:+ u) : Ending r := by
  intro more
  refine (ending ?_).of_suffix suffix more
  rintro rfl
  exact more (List.suffix_nil.1 suffix)

end Ending

theorem EndsLine.ending {u : List Char} (ends : EndsLine u) : Ending u :=
  fun _ => ends

section Lines

variable {u t : List Char}

theorem newline?_eq_none {c d : Char} (feed : c ≠ '\n') (both : ¬(c = '\r' ∧ d = '\n'))
    (r : List Char) : newline? (c :: d :: r) = none := by
  unfold newline?
  split
  · next same => exact absurd (List.cons.inj same).1 feed
  · next same =>
      obtain ⟨here, more⟩ := List.cons.inj same
      exact absurd ⟨here, (List.cons.inj more).1⟩ both
  · rfl

theorem newline?_suffix {r : List Char} (found : newline? u = some r) : r <:+ u := by
  unfold newline? at found
  split at found
  · cases found
    exact List.suffix_cons ..
  · cases found
    exact (List.suffix_cons ..).trans (List.suffix_cons ..)
  · cases found

theorem newline?_length_lt {r : List Char} (found : newline? u = some r) :
    r.length < u.length := by
  unfold newline? at found
  split at found <;> cases found <;> simp only [List.length_cons] <;> omega

theorem newline?_append (ends : EndsLine u) (t : List Char) :
    newline? (u ++ t) = (newline? u).map (· ++ t) := by
  rcases u with _ | ⟨c, r⟩
  · cases ends
  by_cases feed : c = '\n'
  · subst feed
    rfl
  obtain ⟨d, r, rfl⟩ := List.exists_cons_of_ne_nil (ends.tail feed).ne_nil
  by_cases both : c = '\r' ∧ d = '\n'
  · obtain ⟨rfl, rfl⟩ := both
    rfl
  · rw [newline?_eq_none feed both, List.cons_append, List.cons_append,
      newline?_eq_none feed both]
    rfl

theorem skipBlankLines_blank {c : Char} (blank : (isBlankChar c || c = '\n') = true)
    (r : List Char) : skipBlankLines (c :: r) = skipBlankLines r := by
  rw [skipBlankLines, if_pos blank]
  rintro _ rfl
  cases blank

theorem skipBlankLines_solid {c : Char} {r : List Char}
    (solid : ¬(isBlankChar c || c = '\n') = true) (other : ¬(c = '\r' ∧ r.head? = some '\n')) :
    skipBlankLines (c :: r) = c :: r := by
  rw [skipBlankLines, if_neg solid]
  rintro _ rfl rfl
  exact other ⟨rfl, rfl⟩

/-- Blank lines are passed over to the same place, or to the end. -/
theorem skipBlankLines_append (ending : Ending u) (t : List Char) :
    skipBlankLines u <:+ u ∧
      (skipBlankLines u = [] ∨ skipBlankLines (u ++ t) = skipBlankLines u ++ t) := by
  induction u using skipBlankLines.induct with
  | case1 r ih =>
      obtain ⟨suffix, same⟩ := ih (ending.of_suffix ⟨['\r', '\n'], rfl⟩)
      exact ⟨suffix.trans ⟨['\r', '\n'], rfl⟩, same⟩
  | case2 c r _ blank ih =>
      obtain ⟨suffix, same⟩ := ih (ending.of_suffix (List.suffix_cons c r))
      rw [List.cons_append, skipBlankLines_blank blank, skipBlankLines_blank blank]
      exact ⟨suffix.trans (List.suffix_cons c r), same⟩
  | case3 c r other solid =>
      have apart : ¬(c = '\r' ∧ r.head? = some '\n') := by
        rintro ⟨rfl, head⟩
        obtain ⟨v, rfl⟩ := List.head?_eq_some_iff.1 head
        exact other v rfl rfl
      have feed : c ≠ '\n' := by
        rintro rfl
        exact solid rfl
      obtain ⟨d, v, rfl⟩ :=
        List.exists_cons_of_ne_nil ((ending (List.cons_ne_nil c r)).tail feed).ne_nil
      have apart' : ¬(c = '\r' ∧ (d :: v ++ t).head? = some '\n') := apart
      rw [List.cons_append, skipBlankLines_solid solid apart, skipBlankLines_solid solid apart']
      exact ⟨List.suffix_refl _, .inr rfl⟩
  | case4 => exact ⟨List.suffix_refl _, .inl rfl⟩

/-- Some of the quotes at the front of a text are passed over. -/
theorem drop_quotes {quote : Char} (other : quote ≠ '\n') (ends : EndsLine u) {count : Nat}
    (few : count ≤ (u.takeWhile (· = quote)).length) (t : List Char) :
    (u ++ t).drop count = u.drop count ++ t ∧ EndsLine (u.drop count) := by
  have stops : decide ('\n' = quote) = false := decide_eq_false (Ne.symm other)
  have front : u.take count = (u.takeWhile (· = quote)).take count := by
    conv => lhs; rw [← List.takeWhile_append_dropWhile (p := (· = quote)) (l := u)]
    exact List.take_append_of_le_length few
  have all : (u.take count).all (· = quote) := by
    rw [front, List.all_eq_true]
    intro c among
    exact List.all_eq_true.1 List.all_takeWhile c (List.mem_of_mem_take among)
  have long : (u.take count).length = count := by
    rw [front, List.length_take, Nat.min_eq_left few]
  exact (take_of_all stops ends all long t).2

/-- Quotes are read to the same place. -/
theorem quoteRun_append {quote : Char} (other : quote ≠ '\n') (ends : EndsLine u) (t : List Char) :
    match quoteRun quote u with
    | (extra, none) => quoteRun quote (u ++ t) = (extra, none) ∧
        (u ++ t).drop extra.length = u.drop extra.length ++ t ∧ EndsLine (u.drop extra.length)
    | (extra, some r) => quoteRun quote (u ++ t) = (extra, some (r ++ t)) ∧ EndsLine r ∧
        r <:+ u := by
  have stops : decide ('\n' = quote) = false := decide_eq_false (Ne.symm other)
  have drops (count : Nat) (few : count ≤ (u.takeWhile (· = quote)).length) :=
    drop_quotes other ends few t
  unfold quoteRun
  rw [takeWhile_append stops ends]
  dsimp only
  generalize (u.takeWhile (· = quote)).length = size at drops
  by_cases few : size < 3
  · rw [if_pos few, if_pos few]
    dsimp only
    rw [List.length_replicate]
    exact ⟨rfl, drops size (Nat.le_refl _)⟩
  · obtain ⟨drop, ends'⟩ := drops (min (size - 3) 2 + 3) (by omega)
    rw [if_neg few, if_neg few]
    exact ⟨by rw [drop], ends', List.drop_suffix ..⟩

end Lines

/-- Some characters, and what is read behind them. -/
def prepend (front : List Char) (r : Except Failure (List Char × List Char)) :
    Except Failure (List Char × List Char) := do
  let (t, r) ← r
  .ok (front ++ t, r)

theorem Agrees.prepend {u t : List Char} {a b : Except Failure (List Char × List Char)}
    (agrees : Agrees u t a b) (front : List Char) :
    Agrees u t (prepend front a) (prepend front b) :=
  agrees.bind fun _ _ ends _ => .kept _ ends

/-- A row of quotes in a text of several lines: they end it, or `rest` reads on. -/
def quotesThen (rest : List Char → Except Failure (List Char × List Char)) (quote : Char)
    (s : List Char) : Except Failure (List Char × List Char) :=
  match quoteRun quote s with
  | (extra, some r) => .ok (extra, r)
  | (extra, none) => prepend extra (rest (s.drop extra.length))

/-- A line end or a plain character in a text of several lines, and what `rest` reads behind it. -/
def plainThen (rest : List Char → Except Failure (List Char × List Char)) (name : String)
    (c : Char) (r : List Char) : Except Failure (List Char × List Char) :=
  match newline? (c :: r) with
  | some r => prepend ['\n'] (rest r)
  | none => if isPlain c then prepend [c] (rest r) else Reading.refuse { construct := some name }

/-- An escape behind its backslash, and what `rest` reads behind it. -/
def escapeThen (rest : List Char → Except Failure (List Char × List Char)) (name : String)
    (r : List Char) : Except Failure (List Char × List Char) :=
  attempt (escaped r) (Reading.refuse { construct := some name }) fun (c, r) =>
    prepend [c] (rest r)

/-- An escape in a text of several lines, or a line end that is left out with the blanks before
the next text. -/
def continuedThen (rest : List Char → Except Failure (List Char × List Char)) (name : String)
    (r : List Char) : Except Failure (List Char × List Char) :=
  match newline? (skipBlanks r) with
  | some r => prepend [] (rest (skipBlankLines r))
  | none => escapeThen rest name r

theorem basicBody_nil (n : Nat) :
    basicBody n [] = Reading.refuse { construct := some "basic string" } := by
  cases n <;> rfl

theorem basicBody_cons (n : Nat) (c : Char) (r : List Char) :
    basicBody (n + 1) (c :: r) =
      if c = '"' then .ok ([], r)
      else if c = '\\' then escapeThen (basicBody n) "basic string" r
      else if isPlain c then prepend [c] (basicBody n r)
      else Reading.refuse { construct := some "basic string" } := by
  by_cases quote : c = '"'
  · subst quote
    rfl
  by_cases escape : c = '\\'
  · subst escape
    rw [if_neg quote, if_pos rfl, basicBody, escapeThen]
    cases escaped r <;> rfl
  · rw [if_neg quote, if_neg escape]
    rw [basicBody]
    · rfl
    · exact quote
    · exact escape

theorem multilineBasicBody_nil (n : Nat) :
    multilineBasicBody n [] = Reading.refuse { construct := some "multiline basic string" } := by
  cases n <;> rfl

theorem multilineBasicBody_cons (n : Nat) (c : Char) (r : List Char) :
    multilineBasicBody (n + 1) (c :: r) =
      if c = '"' then quotesThen (multilineBasicBody n) '"' (c :: r)
      else if c = '\\' then continuedThen (multilineBasicBody n) "multiline basic string" r
      else plainThen (multilineBasicBody n) "multiline basic string" c r := by
  by_cases quote : c = '"'
  · subst quote
    rfl
  by_cases escape : c = '\\'
  · subst escape
    rw [if_neg quote, if_pos rfl, multilineBasicBody, continuedThen, escapeThen]
    cases newline? (skipBlanks r) with
    | some _ => rfl
    | none => cases escaped r <;> rfl
  · rw [if_neg quote, if_neg escape]
    rw [multilineBasicBody]
    · rfl
    · exact quote
    · exact escape

theorem multilineLiteralBody_nil (n : Nat) :
    multilineLiteralBody n [] =
      Reading.refuse { construct := some "multiline literal string" } := by
  cases n <;> rfl

theorem multilineLiteralBody_cons (n : Nat) (c : Char) (r : List Char) :
    multilineLiteralBody (n + 1) (c :: r) =
      if c = '\'' then quotesThen (multilineLiteralBody n) '\'' (c :: r)
      else plainThen (multilineLiteralBody n) "multiline literal string" c r := by
  by_cases quote : c = '\''
  · subst quote
    rfl
  · rw [if_neg quote]
    rw [multilineLiteralBody]
    · rfl
    · exact quote

theorem quoteRun_pos {quote : Char} {r extra : List Char}
    (run : quoteRun quote (quote :: r) = (extra, none)) : 0 < extra.length := by
  unfold quoteRun at run
  dsimp only at run
  split at run
  · obtain ⟨rfl, -⟩ := Prod.mk.inj run
    rw [List.length_replicate, List.takeWhile_cons, if_pos (decide_eq_true rfl)]
    exact Nat.succ_pos _
  · cases run

section Loops

variable {c : Char} {r t : List Char}
variable {rest more : List Char → Except Failure (List Char × List Char)}

/-- What is read behind the first character of `c :: r` agrees. -/
def AgreesBehind (r t : List Char)
    (rest more : List Char → Except Failure (List Char × List Char)) : Prop :=
  ∀ v, Ending v → v.length ≤ r.length → Agrees v t (rest v) (more (v ++ t))

theorem AgreesBehind.here (behind : AgreesBehind r t rest more) (ends : EndsLine r) (d : Char) :
    Agrees (c :: r) t (prepend [d] (rest r)) (prepend [d] (more (r ++ t))) :=
  ((behind r ends.ending (Nat.le_refl _)).prepend [d]).longer (List.suffix_cons c r)

/-- Quotes inside of a text of several lines agree, if what follows them does. -/
theorem quotesThen_agrees (ends : EndsLine (c :: r)) (other : c ≠ '\n')
    (behind : AgreesBehind r t rest more) :
    Agrees (c :: r) t (quotesThen rest c (c :: r)) (quotesThen more c (c :: (r ++ t))) := by
  have same := quoteRun_append other ends t
  rcases run : quoteRun c (c :: r) with ⟨extra, _ | v⟩ <;>
    rw [run, List.cons_append] at same <;> dsimp only at same <;> unfold quotesThen
  · obtain ⟨run', drop, ends'⟩ := same
    have pos := quoteRun_pos run
    rw [run, run']
    dsimp only
    rw [drop]
    refine ((behind _ ends'.ending ?_).prepend extra).longer (List.drop_suffix ..)
    rw [List.length_drop, List.length_cons]
    omega
  · obtain ⟨run', ends', suffix⟩ := same
    rw [run, run']
    exact .ok _ ends' suffix

theorem plainThen_agrees (ends : EndsLine (c :: r)) (behind : AgreesBehind r t rest more)
    (name : String) :
    Agrees (c :: r) t (plainThen rest name c r) (plainThen more name c (r ++ t)) := by
  have same := newline?_append ends t
  rw [List.cons_append] at same
  unfold plainThen
  rw [same]
  rcases found : newline? (c :: r) with _ | v
  · dsimp only [Option.map_none]
    split
    · next plain => exact behind.here (ends.tail (ne_of_test plain rfl)) c
    · exact .refuse _
  · dsimp only [Option.map_some]
    have suffix := newline?_suffix found
    have short := newline?_length_lt found
    exact ((behind v (ends.ending.of_suffix suffix) (Nat.le_of_lt_succ short)).prepend _).longer
      suffix

theorem escapeThen_agrees (ends : EndsLine r) (behind : AgreesBehind r t rest more)
    (name : String) : Agrees r t (escapeThen rest name r) (escapeThen more name (r ++ t)) :=
  .attempt (List.suffix_refl r) (escaped_framed r t ends) (.refuse _) fun d v ends suffix =>
    (behind v ends.ending suffix.length_le).prepend [d]

/-- A backslash at the end of a line agrees, if what follows the blanks does. -/
theorem continuedThen_agrees (ends : EndsLine r) (behind : AgreesBehind r t rest more)
    (name : String) {issue : Issue} (nothing : rest [] = Reading.refuse issue) :
    Agrees r t (continuedThen rest name r) (continuedThen more name (r ++ t)) := by
  obtain ⟨ends', suffix, same⟩ := skipBlanks_trims r t ends
  unfold continuedThen
  rw [same, newline?_append ends']
  rcases found : newline? (skipBlanks r) with _ | v
  · exact escapeThen_agrees ends behind name
  · dsimp only [Option.map_some]
    have suffix' := newline?_suffix found
    have ending := ends'.ending.of_suffix suffix'
    obtain ⟨skips, none | same⟩ := skipBlankLines_append ending t
    · rw [none, nothing]
      exact .refuse _
    · rw [same]
      have skips' := (skips.trans suffix').trans suffix
      exact ((behind _ (ending.of_suffix skips) skips'.length_le).prepend []).longer skips'

/-- A loop over the characters of a text, with fuel for the shorter text and more for the longer
one.  At the end of the text it is refused what it looks for. -/
theorem loop_agrees {loop : Nat → List Char → Except Failure (List Char × List Char)}
    {issue : Issue} (nothing : ∀ n, loop n [] = Reading.refuse issue)
    (step : ∀ n m c r t, EndsLine (c :: r) → AgreesBehind r t (loop n) (loop m) →
      Agrees (c :: r) t (loop (n + 1) (c :: r)) (loop (m + 1) (c :: (r ++ t))))
    {n m : Nat} {u : List Char} (t : List Char) (ending : Ending u) (enough : u.length < n)
    (more : n ≤ m) : Agrees u t (loop n u) (loop m (u ++ t)) := by
  induction n generalizing m u with
  | zero => cases enough
  | succ n ih =>
      obtain ⟨m, rfl⟩ := Nat.exists_eq_add_of_le' more
      rcases u with _ | ⟨c, r⟩
      · rw [nothing]
        exact .refuse _
      refine step n (m + n) c r t (ending (List.cons_ne_nil c r)) ?_
      intro v ending short
      exact ih ending (Nat.lt_of_le_of_lt short (Nat.lt_of_succ_lt_succ enough))
        (Nat.le_add_left n m)

end Loops

/-- With the fuel that both texts are given. -/
theorem enough_fuel (u t : List Char) : u.length + 1 ≤ (u ++ t).length + 1 := by
  rw [List.length_append]
  omega

theorem basicBody_framed {u : List Char} (t : List Char) (ends : EndsLine u) :
    Agrees u t (basicBody (u.length + 1) u) (basicBody ((u ++ t).length + 1) (u ++ t)) := by
  refine loop_agrees basicBody_nil (fun n m c r t ends behind => ?_) t ends.ending
    (Nat.lt_succ_self _) (enough_fuel u t)
  rw [basicBody_cons, basicBody_cons]
  split
  · next here => exact .ok _ (ends.tail (here ▸ by decide)) (List.suffix_cons c r)
  split
  · next here =>
      exact (escapeThen_agrees (ends.tail (here ▸ by decide)) behind _).longer
        (List.suffix_cons c r)
  split
  · next plain => exact behind.here (ends.tail (ne_of_test plain rfl)) c
  · exact .refuse _

/-- The body of a text of several lines agrees, whatever fuel is left. -/
theorem multilineBasicBody_agrees {n m : Nat} {u : List Char} (t : List Char) (ending : Ending u)
    (enough : u.length < n) (more : n ≤ m) :
    Agrees u t (multilineBasicBody n u) (multilineBasicBody m (u ++ t)) := by
  refine loop_agrees multilineBasicBody_nil (fun n m c r t ends behind => ?_) t ending enough more
  rw [multilineBasicBody_cons, multilineBasicBody_cons]
  split
  · next here =>
      subst here
      exact quotesThen_agrees ends (by decide) behind
  split
  · next here =>
      have ends := ends.tail (here ▸ by decide)
      exact (continuedThen_agrees ends behind _ (multilineBasicBody_nil n)).longer
        (List.suffix_cons c r)
  · exact plainThen_agrees ends behind _

/-- The body of a literal text of several lines agrees, whatever fuel is left. -/
theorem multilineLiteralBody_agrees {n m : Nat} {u : List Char} (t : List Char) (ending : Ending u)
    (enough : u.length < n) (more : n ≤ m) :
    Agrees u t (multilineLiteralBody n u) (multilineLiteralBody m (u ++ t)) := by
  refine loop_agrees multilineLiteralBody_nil (fun n m c r t ends behind => ?_) t ending enough more
  rw [multilineLiteralBody_cons, multilineLiteralBody_cons]
  split
  · next here =>
      subst here
      exact quotesThen_agrees ends (by decide) behind
  · exact plainThen_agrees ends behind _

theorem skipNewline_append {u : List Char} (ends : EndsLine u) (t : List Char) :
    skipNewline u <:+ u ∧ skipNewline (u ++ t) = skipNewline u ++ t := by
  unfold skipNewline
  rw [newline?_append ends]
  rcases found : newline? u with _ | r
  · exact ⟨List.suffix_refl _, rfl⟩
  · exact ⟨newline?_suffix found, rfl⟩

/-- Two quotes stand at the front of a longer text only if they stand in the text. -/
theorem two_quotes_of_append {quote : Char} (other : quote ≠ '\n') {r t w : List Char}
    (ends : EndsLine r) (front : r ++ t = quote :: quote :: w) :
    ∃ v, r = quote :: quote :: v := by
  rcases r with _ | ⟨c, r⟩
  · cases ends
  obtain ⟨rfl, front⟩ := List.cons.inj front
  rcases r with _ | ⟨d, r⟩
  · cases (ends.tail other).ne_nil rfl
  obtain ⟨rfl, -⟩ := List.cons.inj front
  exact ⟨r, rfl⟩

theorem quotedText_basic {r : List Char} (one : ∀ v, r ≠ '"' :: '"' :: v) :
    quotedText ('"' :: r) = basicBody (r.length + 1) r := by
  unfold quotedText
  split
  · next same => exact absurd (List.cons.inj same).2 (one _)
  · next same => rw [(List.cons.inj same).2]
  · next same => cases (List.cons.inj same).1
  · next same => cases (List.cons.inj same).1
  · next other _ _ => exact absurd rfl (other r)

theorem quotedText_literal {r : List Char} (one : ∀ v, r ≠ '\'' :: '\'' :: v) :
    quotedText ('\'' :: r) = literalBody r := by
  unfold quotedText
  split
  · next same => cases (List.cons.inj same).1
  · next same => cases (List.cons.inj same).1
  · next same => exact absurd (List.cons.inj same).2 (one _)
  · next same => rw [(List.cons.inj same).2]
  · next other => exact absurd rfl (other r)

theorem quotedText_other {c : Char} (double : c ≠ '"') (single : c ≠ '\'') (r : List Char) :
    quotedText (c :: r) = Reading.missing := by
  unfold quotedText
  split
  · next same => exact absurd (List.cons.inj same).1 double
  · next same => exact absurd (List.cons.inj same).1 double
  · next same => exact absurd (List.cons.inj same).1 single
  · next same => exact absurd (List.cons.inj same).1 single
  · rfl

theorem quotedText_framed : Framed quotedText := by
  rintro (_ | ⟨c, r⟩) t ends
  · cases ends
  have suffix := List.suffix_cons c r
  rw [List.cons_append]
  by_cases double : c = '"'
  · subst double
    have ends := ends.tail (by decide)
    by_cases three : ∃ v, r = '"' :: '"' :: v
    · obtain ⟨v, rfl⟩ := three
      have ends := (ends.tail (by decide)).tail (by decide)
      obtain ⟨suffix', same⟩ := skipNewline_append ends t
      have body := multilineBasicBody_agrees (n := v.length + 1) (m := (v ++ t).length + 1) t
        (ends.ending.of_suffix suffix') (Nat.lt_succ_of_le suffix'.length_le)
        (by rw [List.length_append]; omega)
      rw [← same] at body
      exact ((body.named _).longer suffix').longer ⟨['"', '"', '"'], rfl⟩
    · have one : ∀ v, r ≠ '"' :: '"' :: v := fun v same => three ⟨v, same⟩
      have one' : ∀ v, r ++ t ≠ '"' :: '"' :: v :=
        fun v same => three (two_quotes_of_append (by decide) ends same)
      rw [quotedText_basic one, quotedText_basic one']
      exact (basicBody_framed t ends).longer suffix
  by_cases single : c = '\''
  · subst single
    have ends := ends.tail (by decide)
    by_cases three : ∃ v, r = '\'' :: '\'' :: v
    · obtain ⟨v, rfl⟩ := three
      have ends := (ends.tail (by decide)).tail (by decide)
      obtain ⟨suffix', same⟩ := skipNewline_append ends t
      have body := multilineLiteralBody_agrees (n := v.length + 1) (m := (v ++ t).length + 1) t
        (ends.ending.of_suffix suffix') (Nat.lt_succ_of_le suffix'.length_le)
        (by rw [List.length_append]; omega)
      rw [← same] at body
      exact (body.longer suffix').longer ⟨['\'', '\'', '\''], rfl⟩
    · have one : ∀ v, r ≠ '\'' :: '\'' :: v := fun v same => three ⟨v, same⟩
      have one' : ∀ v, r ++ t ≠ '\'' :: '\'' :: v :=
        fun v same => three (two_quotes_of_append (by decide) ends same)
      rw [quotedText_literal one, quotedText_literal one']
      exact (literalBody_framed r t ends).longer suffix
  · rw [quotedText_other double single, quotedText_other double single]
    exact .missing

end SqlDriver.Toml
