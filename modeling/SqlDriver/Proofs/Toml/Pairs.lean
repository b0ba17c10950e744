/-
# SqlDriver.Proofs.Toml.Pairs -- a line is read alike whatever lines follow

Keys, arrays, inline tables and all other values are framed (`key_framed`, `value_framed`).
`pair` is what a line `key = value` reads before it is added to a table; `pair_behind` says that it
takes its line, whatever lines follow.
-/
import SqlDriver.Proofs.Toml.Number
import SqlDriver.Proofs.Toml.Table
import Mathlib.Data.List.DropRight

namespace SqlDriver.Toml

set_option autoImplicit false

/-! ## Keys -/

section Keys

/-- A key without quotes is as long as its characters go. -/
theorem simpleKey_bare {c : Char} (double : c ≠ '"') (single : c ≠ '\'') (r : List Char) :
    simpleKey (c :: r) =
      if ((c :: r).takeWhile isBareKeyChar).isEmpty then Reading.missing
      else
        .ok (String.ofList ((c :: r).takeWhile isBareKeyChar),
          (c :: r).dropWhile isBareKeyChar) := by
  rw [simpleKey]
  · exact fun _ same => double (List.cons.inj same).1
  · exact fun _ same => single (List.cons.inj same).1

theorem simpleKey_framed : Framed simpleKey := by
  rintro (_ | ⟨c, r⟩) t ends
  · cases ends
  by_cases double : c = '"'
  · subst double
    refine Agrees.longer ?_ (List.suffix_cons _ r)
    exact (basicBody_framed t (ends.tail (by decide))).bind fun _ _ ends _ => .kept _ ends
  by_cases single : c = '\''
  · subst single
    refine Agrees.longer ?_ (List.suffix_cons _ r)
    exact (literalBody_framed r t (ends.tail (by decide))).bind fun _ _ ends _ => .kept _ ends
  · obtain ⟨ends', suffix, same⟩ := dropWhile_trims (p := isBareKeyChar) rfl _ t ends
    have same' := takeWhile_append (p := isBareKeyChar) rfl ends t
    rw [List.cons_append] at same same'
    rw [List.cons_append, simpleKey_bare double single, simpleKey_bare double single, same, same']
    split
    · exact .missing
    · exact .ok _ ends' suffix

theorem spacedKey_framed : Framed spacedKey := by
  intro u t ends
  refine (Agrees.behind simpleKey_framed skipBlanks_trims ends).bind fun key r ends _ => ?_
  exact .trimmed skipBlanks_trims key ends

theorem keyParts_cons (n : Nat) (c : Char) (r : List Char) :
    keyParts (n + 1) (c :: r) =
      if c = '.' then
        attempt (spacedKey r) (.ok ([], '.' :: r)) fun (part, rest) => do
          let (parts, rest) ← keyParts n rest
          .ok (part :: parts, rest)
      else .ok ([], c :: r) := by
  split
  · next same =>
      subst same
      rw [keyParts]
      cases spacedKey r <;> rfl
  · next other =>
      rw [keyParts]
      exact fun _ _ _ same => other (List.cons.inj same).1

theorem keyParts_agrees {n m : Nat} {u : List Char} (t : List Char) (ends : EndsLine u)
    (enough : u.length ≤ n) (more : n ≤ m) : Agrees u t (keyParts n u) (keyParts m (u ++ t)) := by
  induction n generalizing m u with
  | zero => exact absurd (List.length_eq_zero_iff.1 (Nat.le_zero.1 enough)) ends.ne_nil
  | succ n ih =>
      obtain ⟨m, rfl⟩ := Nat.exists_eq_add_of_le' more
      rcases u with _ | ⟨c, r⟩
      · cases ends
      rw [List.cons_append, keyParts_cons, ← Nat.add_assoc, keyParts_cons]
      split
      · next point =>
          subst point
          have first := spacedKey_framed r t (ends.tail (by decide))
          refine .attempt (List.suffix_cons _ r) first (.kept _ ends) ?_
          intro part v ends suffix
          have short := suffix.length_le.trans (Nat.le_of_succ_le_succ enough)
          exact (ih ends short (Nat.le_add_left n m)).bind fun _ _ ends _ => .kept _ ends
      · exact .kept _ ends

theorem key_framed : Framed key := by
  intro u t ends
  refine Agrees.bind (.named ?_ "key") fun parts r ends _ => ?_
  · refine (spacedKey_framed u t ends).bind fun part r ends _ => ?_
    have more : r.length ≤ (r ++ t).length := by
      rw [List.length_append]
      exact Nat.le_add_right ..
    exact (keyParts_agrees t ends (Nat.le_refl _) more).bind fun _ _ ends _ => .kept _ ends
  · dsimp only
    split
    · exact .error _
    · exact .kept _ ends

theorem equals_framed : Framed equals := by
  intro u t ends
  exact (((char_framed (by decide) u t ends).expecting _).expecting _).commit

end Keys

/-! ## Arrays and inline tables -/

section Nested

variable {u t : List Char}

/-- Blanks, comments and line ends are passed over to the same place, or to the end. -/
theorem skipBetween_append {n m : Nat} (ending : Ending u) (enough : u.length < n) (more : n ≤ m)
    (t : List Char) :
    skipBetween n u = [] ∨ EndsLine (skipBetween n u) ∧ skipBetween n u <:+ u ∧
      skipBetween m (u ++ t) = skipBetween n u ++ t := by
  induction n generalizing m u with
  | zero => cases enough
  | succ n ih =>
      obtain ⟨m, rfl⟩ := Nat.exists_eq_add_of_le' more
      rw [skipBetween, ← Nat.add_assoc, skipBetween]
      by_cases nothing : u = []
      · subst nothing
        exact .inl rfl
      obtain ⟨ends, suffix, same⟩ := skipBlanks_trims u t (ending nothing)
      obtain ⟨ends', suffix', same'⟩ := skipComment_trims _ t ends
      rw [same, same', newline?_append ends']
      rcases found : newline? (skipComment (skipBlanks u)) with _ | v
      · exact .inr ⟨ends, suffix, rfl⟩
      · have suffix'' := newline?_suffix found
        have short := newline?_length_lt found
        have whole := suffix'.trans suffix
        have within := whole.length_le
        obtain none | ⟨ends'', skips, same''⟩ :=
          ih (ends'.ending.of_suffix suffix'') (by omega) (Nat.le_add_left n m)
        · exact .inl none
        · exact .inr ⟨ends'', skips.trans (suffix''.trans whole), same''⟩

/-- Blanks, comments and line ends, with enough fuel. -/
def between (s : List Char) : List Char :=
  skipBetween (s.length + 1) s

theorem between_append (ends : EndsLine u) (t : List Char) :
    between u = [] ∨ EndsLine (between u) ∧ between u <:+ u ∧
      between (u ++ t) = between u ++ t :=
  skipBetween_append ends.ending (Nat.lt_succ_self _) (enough_fuel u t) t

/-- The closing bracket of an array. -/
def closeArray (s : List Char) : Except Failure (List Node × List Char) :=
  match between s with
  | ']' :: r => .ok ([], r)
  | _ => Reading.refuse { construct := some "array", expected := ["`]`"] }

/-- What follows an item of an array. -/
def itemThen (rest : List Char → Except Failure (List Node × List Char)) (item : Node)
    (s : List Char) : Except Failure (List Node × List Char) :=
  match between s with
  | ',' :: s => do
      let (items, s) ← rest s
      .ok (item :: items, s)
  | s => do
      let (_, s) ← closeArray s
      .ok ([item], s)

variable {value : List Char → Except Failure (Node × List Char)}

theorem arrayItems_succ (n : Nat) (s : List Char) :
    arrayItems value (n + 1) s =
      attempt (value (between s)) (closeArray s) fun (item, rest) =>
        itemThen (arrayItems value n) item rest := by
  rw [arrayItems]
  unfold between
  cases value (skipBetween (s.length + 1) s) <;> rfl

theorem closeArray_framed : Framed closeArray := by
  intro u t ends
  unfold closeArray
  obtain none | ⟨ends', suffix, same⟩ := between_append ends t
  · rw [none]
    exact .refuse _
  rw [same]
  generalize between u = w at ends' suffix
  split
  · exact .ok _ (ends'.tail (by decide)) ((List.suffix_cons ..).trans suffix)
  · exact .refuse _

theorem itemThen_last {rest : List Char → Except Failure (List Node × List Char)} {item : Node}
    {s : List Char} (last : ∀ r, between s ≠ ',' :: r) :
    itemThen rest item s = (do
      let (_, s) ← closeArray (between s)
      .ok ([item], s)) := by
  unfold itemThen
  split
  · next same => exact absurd same (last _)
  · rfl

/-- What follows an item agrees, if what follows the comma does. -/
theorem itemThen_agrees {rest more : List Char → Except Failure (List Node × List Char)}
    (ends : EndsLine u) (item : Node)
    (behind : ∀ v, EndsLine v → v.length < u.length → Agrees v t (rest v) (more (v ++ t))) :
    Agrees u t (itemThen rest item u) (itemThen more item (u ++ t)) := by
  obtain none | ⟨ends', suffix, same⟩ := between_append ends t
  · rw [itemThen_last (by simp [none]), none]
    exact .refuse _
  refine Agrees.longer ?_ suffix
  obtain ⟨c, r, found⟩ := List.exists_cons_of_ne_nil ends'.ne_nil
  by_cases comma : c = ','
  · subst comma
    have within := suffix.length_le
    rw [found] at ends' within same
    unfold itemThen
    rw [same, found]
    refine Agrees.longer ?_ (List.suffix_cons _ r)
    exact (behind r (ends'.tail (by decide)) within).bind fun _ _ ends _ => .kept _ ends
  · have last (v w : List Char) : c :: v ≠ ',' :: w :=
      fun same => comma (List.cons.inj same).1
    rw [itemThen_last fun w => found ▸ last r w,
      itemThen_last fun w => same ▸ found ▸ last (r ++ t) w, same]
    exact (closeArray_framed _ t ends').bind fun _ _ ends _ => .kept _ ends

/-- The items of an array agree, whatever fuel is left. -/
theorem arrayItems_agrees (framed : Framed value) (nothing : value [] = Reading.missing)
    {n m : Nat} {u : List Char} (t : List Char) (ends : EndsLine u) (enough : u.length < n)
    (more : n ≤ m) : Agrees u t (arrayItems value n u) (arrayItems value m (u ++ t)) := by
  induction n generalizing m u with
  | zero => cases enough
  | succ n ih =>
      obtain ⟨m, rfl⟩ := Nat.exists_eq_add_of_le' more
      rw [arrayItems_succ, ← Nat.add_assoc, arrayItems_succ]
      obtain none | ⟨ends', suffix, same⟩ := between_append ends t
      · have closed : closeArray u =
            Reading.refuse { construct := some "array", expected := ["`]`"] } := by
          rw [closeArray, none]
        rw [none, nothing]
        exact closed ▸ .refuse _
      rw [same]
      refine .attempt suffix (framed _ t ends') (closeArray_framed u t ends) ?_
      intro item v ends suffix'
      have within := (suffix'.trans suffix).length_le
      refine itemThen_agrees ends item ?_
      intro w ends short
      exact ih ends (by omega) (Nat.le_add_left n m)

theorem inlinePair_framed (framed : Framed value) : Framed (inlinePair value) := by
  intro u t ends
  refine (key_framed u t ends).bind fun (path, last) r ends _ => ?_
  refine (equals_framed r t ends).bind fun _ r ends _ => ?_
  refine (Agrees.behind framed skipBlanks_trims ends).commit.bind fun v r ends _ => ?_
  exact .trimmed skipBlanks_trims _ ends

/-- What follows a pair inside braces. -/
def pairThen (rest : List Char → Except Failure (List Pair × List Char)) (p : Pair)
    (s : List Char) : Except Failure (List Pair × List Char) :=
  match s with
  | ',' :: r =>
      match rest r with
      | .error f => .error f
      | .ok ([], _) => .ok ([p], ',' :: r)
      | .ok (pairs, r) => .ok (p :: pairs, r)
  | s => .ok ([p], s)

theorem pairThen_last {rest : List Char → Except Failure (List Pair × List Char)} {p : Pair}
    {c : Char} (last : c ≠ ',') (r : List Char) : pairThen rest p (c :: r) = .ok ([p], c :: r) := by
  rw [pairThen]
  exact fun _ same => last (List.cons.inj same).1

theorem inlinePairs_succ (n : Nat) (s : List Char) :
    inlinePairs value (n + 1) s =
      attempt (inlinePair value s) (.ok ([], s)) fun (p, rest) =>
        pairThen (inlinePairs value n) p rest := by
  rw [inlinePairs]
  rcases inlinePair value s with f | ⟨p, _ | ⟨c, r⟩⟩
  · rfl
  · rfl
  by_cases comma : c = ','
  · subst comma
    rfl
  · show _ = pairThen (inlinePairs value n) p (c :: r)
    rw [pairThen_last comma]
    split
    · next same => cases same
    · next same =>
        cases same
        exact absurd rfl comma
    · next same =>
        cases same
        rfl

/-- What follows a pair agrees, if what follows the comma does. -/
theorem pairThen_agrees {rest more : List Char → Except Failure (List Pair × List Char)}
    (ends : EndsLine u) (p : Pair)
    (behind : ∀ v, EndsLine v → v.length < u.length → Agrees v t (rest v) (more (v ++ t))) :
    Agrees u t (pairThen rest p u) (pairThen more p (u ++ t)) := by
  obtain ⟨c, r, rfl⟩ := List.exists_cons_of_ne_nil ends.ne_nil
  by_cases comma : c = ','
  · subst comma
    have next := behind r (ends.tail (by decide)) (Nat.lt_succ_self _)
    rw [List.cons_append, pairThen, pairThen]
    rcases read : rest r with f | ⟨_ | ⟨q, pairs⟩, w⟩ <;> rw [read] at next
    · intro other
      rw [next other]
    · rw [next.2.2]
      exact .kept _ ends
    · rw [next.2.2]
      exact .ok _ next.1 (next.2.1.trans (List.suffix_cons ..))
  · rw [List.cons_append, pairThen_last comma, pairThen_last comma]
    exact .kept _ ends

/-- The pairs of an inline table agree, whatever fuel is left. -/
theorem inlinePairs_agrees (framed : Framed value) {n m : Nat} {u : List Char} (t : List Char)
    (ends : EndsLine u) (enough : u.length < n) (more : n ≤ m) :
    Agrees u t (inlinePairs value n u) (inlinePairs value m (u ++ t)) := by
  induction n generalizing m u with
  | zero => cases enough
  | succ n ih =>
      obtain ⟨m, rfl⟩ := Nat.exists_eq_add_of_le' more
      rw [inlinePairs_succ, ← Nat.add_assoc, inlinePairs_succ]
      refine .attempt (List.suffix_refl u) (inlinePair_framed framed u t ends) (.kept _ ends) ?_
      intro p v ends suffix
      have within := suffix.length_le
      refine pairThen_agrees ends p ?_
      intro w ends short
      exact ih ends (by omega) (Nat.le_add_left n m)

end Nested

/-! ## Values -/

section Values

variable {u r t : List Char}

theorem asUnquoted_agrees {a b : Except Failure (Node × List Char)} (agrees : Agrees u t a b) :
    Agrees u t (asUnquoted a) (asUnquoted b) :=
  ((agrees.named _).expecting _).expecting _

/-- The table of the pairs inside braces, and the closing brace. -/
def closeTable (pairs : List (Pair)) (s : List Char) :
    Except Failure (Node × List Char) :=
  match inlineTable pairs with
  | .error issue => Reading.refuse issue
  | .ok table =>
      match skipBlanks s with
      | '\x7d' :: rest => .ok (table, rest)
      | _ => Reading.refuse { construct := some "inline table", expected := ["`\x7d`"] }

theorem closeTable_framed (pairs : List (Pair)) :
    Framed (closeTable pairs) := by
  intro u t ends
  obtain ⟨ends', suffix, same⟩ := skipBlanks_trims u t ends
  unfold closeTable
  rw [same]
  generalize skipBlanks u = w at ends' suffix
  split
  · exact .refuse _
  split
  · exact .ok _ (ends'.tail (by decide)) ((List.suffix_cons ..).trans suffix)
  · exact .refuse _

/-- A number, date or time, or a word, that begins with `c`. -/
def bareValue (c : Char) (s : List Char) : Except Failure (Node × List Char) :=
  if c = '+' || c = '-' || Decimal.isDigit c then number s
  else if c = '_' then Reading.expecting "leading digit" (integer s)
  else if c = '.' then Reading.expecting "leading digit" (float s)
  else if c = 't' then asUnquoted (Reading.commit (word "true" (.boolean true) s))
  else if c = 'f' then asUnquoted (Reading.commit (word "false" (.boolean false) s))
  else if c = 'i' then asUnquoted (word "inf" (.float (Decimal.Binary64.infinity false)) s)
  else if c = 'n' then asUnquoted (word "nan" (.float Decimal.Binary64.notANumber) s)
  else asUnquoted Reading.missing

theorem bareValue_framed (c : Char) : Framed (bareValue c) := by
  intro u t ends
  have spelled {name : String} (plain : '\n' ∉ name.toList) (node : Node) :=
    word_framed plain node u t ends
  unfold bareValue
  refine .ite (number_framed u t ends) ?_
  refine .ite ((integer_framed u t ends).expecting _) ?_
  refine .ite ((float_framed u t ends).expecting _) ?_
  refine .ite (asUnquoted_agrees (spelled (by decide) _).commit) ?_
  refine .ite (asUnquoted_agrees (spelled (by decide) _).commit) ?_
  refine .ite (asUnquoted_agrees (spelled (by decide) _)) ?_
  refine .ite (asUnquoted_agrees (spelled (by decide) _)) ?_
  exact asUnquoted_agrees .missing

theorem value_nil (depth : Nat) : value depth [] = Reading.missing := by
  cases depth <;> rfl

/-- An array behind its opening bracket. -/
def array : Nat → List Char → Except Failure (Node × List Char)
  | 0, _ => Reading.refuse tooDeep
  | depth + 1, r => do
      let (items, rest) ← arrayItems (value depth) (r.length + 1) r
      .ok (.array items, rest)

/-- An inline table behind its opening brace. -/
def braces : Nat → List Char → Except Failure (Node × List Char)
  | 0, _ => Reading.refuse tooDeep
  | depth + 1, r => do
      let (pairs, rest) ← inlinePairs (value depth) (r.length + 1) r
      closeTable pairs rest

/-- The first character of a value says of which form it is. -/
theorem value_cons (depth : Nat) (c : Char) (r : List Char) :
    value depth (c :: r) =
      if c = '"' || c = '\'' then do
        let (t, rest) ← quotedText (c :: r)
        .ok (.string (String.ofList t), rest)
      else if c = '[' then array depth r
      else if c = '\x7b' then braces depth r
      else bareValue c (c :: r) := by
  cases depth <;> rfl

section

variable (n : Nat) (framed : ∀ depth, depth + 1 = n → Framed (value depth))
include framed

theorem array_framed : Framed (array n) := by
  intro u t ends
  cases n with
  | zero => exact .refuse _
  | succ depth =>
      exact (arrayItems_agrees (framed depth rfl) (value_nil depth) t ends (Nat.lt_succ_self _)
        (enough_fuel u t)).bind fun _ _ ends _ => .kept _ ends

theorem braces_framed : Framed (braces n) := by
  intro u t ends
  cases n with
  | zero => exact .refuse _
  | succ depth =>
      exact (inlinePairs_agrees (framed depth rfl) t ends (Nat.lt_succ_self _)
        (enough_fuel u t)).bind
        fun pairs r ends _ => closeTable_framed pairs r t ends

end

theorem value_framed_of (n : Nat) (framed : ∀ depth, depth + 1 = n → Framed (value depth)) :
    Framed (value n) := by
  rintro (_ | ⟨c, r⟩) t ends
  · cases ends
  rw [List.cons_append, value_cons, value_cons]
  refine .ite ?_ ?_
  · exact (quotedText_framed (c :: r) t ends).bind fun _ _ ends _ => .kept _ ends
  by_cases bracket : c = '['
  · rw [if_pos bracket, if_pos bracket]
    have ends := ends.tail (bracket ▸ by decide)
    exact (array_framed n framed r t ends).longer (List.suffix_cons c r)
  rw [if_neg bracket, if_neg bracket]
  by_cases brace : c = '\x7b'
  · rw [if_pos brace, if_pos brace]
    have ends := ends.tail (brace ▸ by decide)
    exact (braces_framed n framed r t ends).longer (List.suffix_cons c r)
  rw [if_neg brace, if_neg brace]
  exact bareValue_framed c (c :: r) t ends

/-- The induction is on the depth: the values inside brackets and braces have one level less. -/
theorem value_framed (depth : Nat) : Framed (value depth) := by
  induction depth with
  | zero => exact value_framed_of 0 nofun
  | succ depth ih =>
      refine value_framed_of (depth + 1) fun before same => ?_
      cases same
      exact ih

end Values

/-! ## Lines -/

/-- The key, the sign and the value at the front of a line. -/
def pairFront (s : List Char) : Except Failure ((Pair) × List Char) := do
  let ((path, last), r) ← Reading.commit (key s)
  let (_, r) ← equals r
  let (v, r) ← Reading.commit (value (depthLimit - 1) (skipBlanks r))
  .ok ((path, last, v), r)

/-- The pair that a line `key = value` holds, and what follows the line. -/
def pair (s : List Char) : Except Failure ((Pair) × List Char) := do
  let (p, r) ← pairFront s
  let (_, r) ← lineTrailing r
  .ok (p, r)

section Lines

variable {s r t : List Char} {p : Pair}

/-- A line reads its pair and adds it to the current table. -/
theorem keyLine_eq (b : Builder) (s : List Char) :
    keyLine b s = (do
      let ((path, last, v), r) ← pair s
      match b.addLine path last v with
      | .error issue => Reading.refuse issue
      | .ok b => .ok (b, r)) := by
  unfold keyLine pair pairFront
  simp only [bind_assoc]
  rfl

theorem pairFront_framed : Framed pairFront := by
  intro u t ends
  refine (key_framed u t ends).commit.bind fun (path, last) r ends _ => ?_
  refine (equals_framed r t ends).bind fun _ r ends _ => ?_
  refine (Agrees.behind (value_framed _) skipBlanks_trims ends).commit.bind fun v r ends _ => ?_
  exact .kept _ ends

theorem lineEnd_append (ends : EndsLine s) (found : lineEnd s = .ok ((), r)) (t : List Char) :
    lineEnd (s ++ t) = .ok ((), r ++ t) := by
  have same := newline?_append ends t
  obtain ⟨c, v, rfl⟩ := List.exists_cons_of_ne_nil ends.ne_nil
  rw [List.cons_append] at same ⊢
  unfold lineEnd at found ⊢
  dsimp only at found ⊢
  rw [same]
  rcases line : newline? (c :: v) with _ | w <;> rw [line] at found <;> cases found
  rfl

theorem lineTrailing_append (ends : EndsLine s) (found : lineTrailing s = .ok ((), r))
    (t : List Char) : lineTrailing (s ++ t) = .ok ((), r ++ t) := by
  obtain ⟨ends', -, same⟩ := skipBlanks_trims s t ends
  obtain ⟨ends'', -, same'⟩ := skipComment_trims _ t ends'
  unfold lineTrailing at found ⊢
  rw [same, same']
  rcases line : lineEnd (skipComment (skipBlanks s)) with f | ⟨_, w⟩ <;> rw [line] at found <;>
    cases found
  rw [lineEnd_append ends'' line]
  rfl

/-- A line is read alike, whatever lines follow. -/
theorem pair_behind (ends : EndsLine s) (read : pair s = .ok (p, r)) (t : List Char) :
    pair (s ++ t) = .ok (p, r ++ t) := by
  have front := pairFront_framed s t ends
  unfold pair at read ⊢
  rcases read' : pairFront s with f | ⟨q, v⟩ <;> rw [read'] at front read
  · cases read
  obtain ⟨ends', -, same⟩ := front
  rw [same]
  rcases trailing : lineTrailing v with f | ⟨_, w⟩ <;>
    simp only [bind, Except.bind, trailing] at read <;> cases read
  simp only [bind, Except.bind, lineTrailing_append ends' trailing]

theorem skipBlanks_skipBlanks (s : List Char) : skipBlanks (skipBlanks s) = skipBlanks s :=
  List.dropWhile_idempotent ..

theorem pair_skipBlanks (s : List Char) : pair (skipBlanks s) = pair s := by
  unfold pair pairFront key spacedKey
  rw [skipBlanks_skipBlanks]

/-- A key begins with a quote or with a character that needs none. -/
def BeginsKey (c : Char) : Prop :=
  c = '"' ∨ c = '\'' ∨ isBareKeyChar c = true

theorem beginsKey_of_simpleKey {key : String} (read : simpleKey s = .ok (key, r)) :
    ∃ c v, s = c :: v ∧ BeginsKey c := by
  rcases s with _ | ⟨c, v⟩
  · cases read
  refine ⟨c, v, rfl, ?_⟩
  by_cases double : c = '"'
  · exact .inl double
  by_cases single : c = '\''
  · exact .inr (.inl single)
  by_cases bare : isBareKeyChar c = true
  · exact .inr (.inr bare)
  · rw [simpleKey_bare double single, List.takeWhile_cons_of_neg bare] at read
    cases read

theorem beginsKey_of_pair (read : pair s = .ok (p, r)) :
    ∃ c v, skipBlanks s = c :: v ∧ BeginsKey c := by
  rcases first : simpleKey (skipBlanks s) with f | ⟨key, v⟩
  · unfold pair pairFront key spacedKey at read
    rw [first] at read
    cases read
  · exact beginsKey_of_simpleKey first

theorem line_of_beginsKey {c : Char} (begins : BeginsKey c) (b : Builder) (v : List Char) :
    line b (c :: v) = keyLine b (c :: v) := by
  have other (d : Char) (not : ¬BeginsKey d) : c ≠ d := by
    rintro rfl
    exact not begins
  unfold line
  split
  · next same => exact absurd (List.cons.inj same).1 (other _ (by unfold BeginsKey; decide))
  · next same => exact absurd (List.cons.inj same).1 (other _ (by unfold BeginsKey; decide))
  · next same => exact absurd (List.cons.inj same).1 (other _ (by unfold BeginsKey; decide))
  · next same => exact absurd (List.cons.inj same).1 (other _ (by unfold BeginsKey; decide))
  · next same => exact absurd (List.cons.inj same).1 (other _ (by unfold BeginsKey; decide))
  · rfl

variable {n : Nat} {b : Builder} {ℓ text : List Char}

theorem linesFrom_of_line {b' : Builder} (read : line b (skipBlanks s) = .ok (b', r))
    (more : skipBlanks s ≠ []) : linesFrom (n + 1) b s = linesFrom n b' r := by
  rw [linesFrom]
  split
  · next none => exact absurd none more
  · rw [read]
    rfl

/-- A line `key = value` in front of other lines is added to the current table. -/
theorem linesFrom_pair (read : pair (ℓ ++ ['\n']) = .ok (p, [])) {b' : Builder}
    (added : b.addLine p.1 p.2.1 p.2.2 = .ok b') (t : List Char) :
    linesFrom (n + 1) b (ℓ ++ '\n' :: t) = linesFrom n b' t := by
  have read : pair (ℓ ++ '\n' :: t) = .ok (p, t) := by
    have behind := pair_behind (.append ℓ) read t
    rw [List.append_assoc] at behind
    exact behind
  obtain ⟨c, v, front, begins⟩ := beginsKey_of_pair read
  refine linesFrom_of_line ?_ (front ▸ List.cons_ne_nil c v)
  rw [front, line_of_beginsKey begins, ← front, keyLine_eq, pair_skipBlanks]
  rw [read]
  obtain ⟨path, last, v⟩ := p
  dsimp only [bind, Except.bind] at added ⊢
  rw [added]

theorem skipBlanks_blank (blank : ℓ.all isBlankChar) {c : Char} (other : isBlankChar c = false)
    (t : List Char) : skipBlanks (ℓ ++ c :: t) = c :: t := by
  unfold skipBlanks
  rw [List.dropWhile_append_of_pos (List.all_eq_true.1 blank), List.dropWhile_cons_of_neg]
  rw [other]
  exact Bool.false_ne_true

theorem linesFrom_blank (blank : ℓ.all isBlankChar) (t : List Char) :
    linesFrom (n + 1) b (ℓ ++ '\n' :: t) = linesFrom n b t := by
  refine linesFrom_of_line ?_ ?_ <;> rw [skipBlanks_blank blank rfl]
  · rfl
  · exact List.cons_ne_nil _ _

theorem linesFrom_comment (blank : ℓ.all isBlankChar) (plain : text.all isPlain) (t : List Char) :
    linesFrom (n + 1) b (ℓ ++ '#' :: (text ++ '\n' :: t)) = linesFrom n b t := by
  have skipped : skipComment ('#' :: (text ++ '\n' :: t)) = '\n' :: t := by
    rw [skipComment_cons, if_pos rfl, List.dropWhile_append_of_pos (List.all_eq_true.1 plain),
      List.dropWhile_cons_of_neg (by decide)]
  refine linesFrom_of_line ?_ ?_ <;> rw [skipBlanks_blank blank rfl]
  · rw [line, skipped]
    rfl
  · exact List.cons_ne_nil _ _

end Lines

end SqlDriver.Toml
