/-
# SqlDriver.Proofs.Toml.Number -- numbers, dates and times are framed

Each of them is on one line, and none holds a line end (`number_framed`).  A number is tried as a
date, then as a float, then as an integer: what the first trials read of the line decides whether
there is another one, so each of them has to be framed on its own.
-/
import SqlDriver.Proofs.Toml.Text

namespace SqlDriver.Toml

set_option autoImplicit false

/-! ## Rows of digits -/

section Digits

variable {isDigit : Char → Bool}

theorem moreDigits_cons {c : Char} (other : c ≠ '_') (r : List Char) :
    moreDigits isDigit (c :: r) =
      if isDigit c then do
        let (ds, rest) ← moreDigits isDigit r
        .ok (c :: ds, rest)
      else .ok ([], c :: r) := by
  rw [moreDigits]
  exact other

theorem moreDigits_framed (stops : isDigit '\n' = false) : Framed (moreDigits isDigit) := by
  intro u t ends
  induction u using moreDigits.induct isDigit with
  | case1 => cases ends
  | case2 d r digit ih =>
      have ends := (ends.tail (by decide)).tail (ne_of_test digit stops)
      simp only [moreDigits, List.cons_append, digit, if_true]
      refine Agrees.longer ?_ (v := r) ⟨['_', d], rfl⟩
      exact (ih ends).bind fun _ _ ends _ => .kept _ ends
  | case3 d r other =>
      simp only [moreDigits, other]
      exact .refuse _
  | case4 => exact .refuse _
  | case5 c r other digit ih =>
      have ends := ends.tail (ne_of_test digit stops)
      rw [List.cons_append, moreDigits_cons other, moreDigits_cons other, if_pos digit,
        if_pos digit]
      refine Agrees.longer ?_ (v := r) (List.suffix_cons c r)
      exact (ih ends).bind fun _ _ ends _ => .kept _ ends
  | case6 c r other none =>
      rw [List.cons_append, moreDigits_cons other, moreDigits_cons other, if_neg none, if_neg none]
      exact .kept _ ends

theorem digits_framed (stops : isDigit '\n' = false) : Framed (digits isDigit) := by
  rintro (_ | ⟨c, r⟩) t ends
  · cases ends
  rw [List.cons_append, digits, digits]
  split
  · next digit =>
      refine Agrees.longer ?_ (v := r) (List.suffix_cons c r)
      exact (moreDigits_framed stops r t (ends.tail (ne_of_test digit stops))).bind
        fun _ _ ends _ => .kept _ ends
  · exact .missing

end Digits

/-! ## Integers -/

section Integers

variable {u r t : List Char}

theorem sign_cons (c : Char) (r : List Char) :
    sign (c :: r) = if c = '+' ∨ c = '-' then (some c, r) else (none, c :: r) := by
  by_cases plus : c = '+'
  · subst plus
    rfl
  by_cases minus : c = '-'
  · subst minus
    rfl
  rw [if_neg (not_or.2 ⟨plus, minus⟩), sign]
  · exact fun _ same => plus (List.cons.inj same).1
  · exact fun _ same => minus (List.cons.inj same).1

theorem sign_append (ends : EndsLine u) (t : List Char) :
    ∃ mark r, sign u = (mark, r) ∧ sign (u ++ t) = (mark, r ++ t) ∧ EndsLine r ∧ r <:+ u := by
  rcases u with _ | ⟨c, r⟩
  · cases ends
  rw [List.cons_append, sign_cons, sign_cons]
  split
  · next mark =>
      have other : c ≠ '\n' := by
        rcases mark with rfl | rfl <;> decide
      exact ⟨some c, r, rfl, rfl, ends.tail other, List.suffix_cons c r⟩
  · exact ⟨none, c :: r, rfl, rfl, ends, List.suffix_refl _⟩

/-- The digits of a decimal integer behind its sign. -/
def zeroOrDigits (s : List Char) : Except Failure (List Char × List Char) :=
  match s with
  | '0' :: r => .ok (['0'], r)
  | r => digits Decimal.isDigit r

theorem zeroOrDigits_cons (c : Char) (r : List Char) :
    zeroOrDigits (c :: r) =
      if c = '0' then .ok (['0'], r) else digits Decimal.isDigit (c :: r) := by
  split
  · next same => rw [same, zeroOrDigits]
  · next other =>
      rw [zeroOrDigits]
      exact fun _ same => other (List.cons.inj same).1

theorem decimalDigits_eq {s r : List Char} {mark : Option Char} (signed : sign s = (mark, r)) :
    decimalDigits s = Reading.named "integer" (do
      let (ds, rest) ← zeroOrDigits r
      .ok ((mark, ds), rest)) := by
  unfold decimalDigits
  rw [signed]
  rfl

theorem zeroOrDigits_framed : Framed zeroOrDigits := by
  rintro (_ | ⟨c, r⟩) t ends
  · cases ends
  rw [List.cons_append, zeroOrDigits_cons, zeroOrDigits_cons]
  split
  · next zero => exact .ok _ (ends.tail (zero ▸ by decide)) (List.suffix_cons c r)
  · exact digits_framed rfl (c :: r) t ends

theorem decimalDigits_framed : Framed decimalDigits := by
  intro u t ends
  obtain ⟨mark, r, here, there, ends, suffix⟩ := sign_append ends t
  rw [decimalDigits_eq here, decimalDigits_eq there]
  refine Agrees.longer (.named ?_ _) suffix
  exact (zeroOrDigits_framed r t ends).bind fun _ _ ends _ => .kept _ ends

theorem integerValue_agrees (n : Int) (ends : EndsLine r) :
    Agrees r t (integerValue n r) (integerValue n (r ++ t)) := by
  unfold integerValue
  split
  · exact .refuse _
  split
  · exact .refuse _
  · exact .kept _ ends

theorem basedInteger_framed (name : String) (base : Nat) {isDigit : Char → Bool}
    (stops : isDigit '\n' = false) : Framed (basedInteger name base isDigit) := by
  intro u t ends
  refine Agrees.bind ((digits_framed stops u t ends).commit.named name) fun _ r ends _ => ?_
  exact integerValue_agrees _ ends

def decimalInteger (s : List Char) : Except Failure (Node × List Char) := do
  let ((mark, ds), rest) ← decimalDigits s
  let n : Int := Decimal.valueOfDigits ds
  integerValue (if mark = some '-' then -n else n) rest

theorem decimalInteger_framed : Framed decimalInteger := by
  intro u t ends
  refine (decimalDigits_framed u t ends).bind fun _ r ends _ => ?_
  exact integerValue_agrees _ ends

theorem integer_decimal {c : Char} (other : c ≠ '0') (r : List Char) :
    integer (c :: r) = decimalInteger (c :: r) := by
  rw [integer]
  · rfl
  · exact fun _ same => absurd (List.cons.inj same).1 other
  · exact fun _ same => absurd (List.cons.inj same).1 other
  · exact fun _ same => absurd (List.cons.inj same).1 other

/-- A zero and a letter begin an integer of another base. -/
theorem integer_zero (d : Char) (r : List Char) :
    integer ('0' :: d :: r) =
      if d = 'x' then basedInteger "hexadecimal integer" 16 isHexDigit r
      else if d = 'o' then basedInteger "octal integer" 8 (fun c => '0' ≤ c && c ≤ '7') r
      else if d = 'b' then basedInteger "binary integer" 2 (fun c => c = '0' || c = '1') r
      else decimalInteger ('0' :: d :: r) := by
  split
  · next same => rw [same, integer]
  split
  · next same => rw [same, integer]
  split
  · next same => rw [same, integer]
  · next hex octal binary =>
      rw [integer]
      · rfl
      · exact fun _ same => hex (List.cons.inj (List.cons.inj same).2).1
      · exact fun _ same => octal (List.cons.inj (List.cons.inj same).2).1
      · exact fun _ same => binary (List.cons.inj (List.cons.inj same).2).1

theorem integer_framed : Framed integer := by
  rintro (_ | ⟨c, r⟩) t ends
  · cases ends
  by_cases zero : c = '0'
  · subst zero
    rcases r with _ | ⟨d, r⟩
    · cases (ends.tail (by decide)).ne_nil rfl
    have marked {p : List Char → Except Failure (Node × List Char)} (framed : Framed p)
        (other : d ≠ '\n') : Agrees ('0' :: d :: r) t (p r) (p (r ++ t)) :=
      (framed r t ((ends.tail (by decide)).tail other)).longer ⟨['0', d], rfl⟩
    rw [List.cons_append, List.cons_append, integer_zero, integer_zero]
    split
    · next same => exact marked (basedInteger_framed _ _ rfl) (same ▸ by decide)
    split
    · next same => exact marked (basedInteger_framed _ _ rfl) (same ▸ by decide)
    split
    · next same => exact marked (basedInteger_framed _ _ rfl) (same ▸ by decide)
    · exact decimalInteger_framed _ t ends
  · rw [List.cons_append, integer_decimal zero, integer_decimal zero]
    exact decimalInteger_framed (c :: r) t ends

end Integers

/-! ## Floats -/

section Floats

theorem exponent_framed : Framed exponent := by
  rintro (_ | ⟨c, r⟩) t ends
  · cases ends
  rw [List.cons_append, exponent, exponent]
  split
  · next mark =>
      have other : c ≠ '\n' := by
        rintro rfl
        cases mark
      refine Agrees.longer ?_ (List.suffix_cons c r)
      obtain ⟨mark, r, here, there, ends, suffix⟩ := sign_append (ends.tail other) t
      rw [here, there]
      refine Agrees.longer ?_ suffix
      exact (digits_framed rfl r t ends).commit.bind fun _ _ ends _ => .kept _ ends
  · exact .missing

theorem fraction_cons (c : Char) (r : List Char) :
    fraction (c :: r) =
      if c = '.' then Reading.expecting "digit" (Reading.commit (digits Decimal.isDigit r))
      else Reading.missing := by
  split
  · next same => rw [same, fraction]
  · next other =>
      rw [fraction]
      exact fun _ same => other (List.cons.inj same).1

theorem fraction_framed : Framed fraction := by
  rintro (_ | ⟨c, r⟩) t ends
  · cases ends
  rw [List.cons_append, fraction_cons, fraction_cons]
  split
  · next point =>
      refine Agrees.longer ?_ (List.suffix_cons c r)
      exact ((digits_framed rfl r t (ends.tail (point ▸ by decide))).commit).expecting _
  · exact .missing

theorem finiteFloat_framed : Framed finiteFloat := by
  intro u t ends
  refine (decimalDigits_framed u t ends).bind fun (mark, whole) r ends _ => ?_
  refine Agrees.bind (.orElse ?_ ?_) fun (part, e) r ends _ => ?_
  · exact (exponent_framed r t ends).bind fun _ _ ends _ => .kept _ ends
  · refine (fraction_framed r t ends).bind fun part r ends _ => ?_
    refine .orElse ?_ (.kept _ ends)
    exact (exponent_framed r t ends).bind fun _ _ ends _ => .kept _ ends
  · dsimp only
    split
    · exact .refuse _
    · exact .kept _ ends

/-- A word without a line end stands at the front of a line or not, whatever follows the line. -/
theorem isPrefixOf_append {name u : List Char} (plain : '\n' ∉ name) (ends : EndsLine u)
    (t : List Char) : name.isPrefixOf (u ++ t) = name.isPrefixOf u ∧
      (name.isPrefixOf u = true → EndsLine (u.drop name.length) ∧
        (u ++ t).drop name.length = u.drop name.length ++ t) := by
  induction name generalizing u with
  | nil => exact ⟨rfl, fun _ => ⟨ends, rfl⟩⟩
  | cons d name ih =>
      rcases u with _ | ⟨c, r⟩
      · cases ends
      rw [List.mem_cons, not_or] at plain
      by_cases same : d = c
      · subst same
        obtain ⟨front, rest⟩ := ih plain.2 (ends.tail (Ne.symm plain.1))
        rw [List.cons_append, List.isPrefixOf_cons_cons, List.isPrefixOf_cons_cons, front]
        simpa using rest
      · rw [List.cons_append, List.isPrefixOf_cons_cons, List.isPrefixOf_cons_cons,
          beq_false_of_ne same, Bool.false_and, Bool.false_and]
        exact ⟨rfl, fun none => by cases none⟩

theorem word_framed {name : String} (plain : '\n' ∉ name.toList) (node : Node) :
    Framed (word name node) := by
  intro u t ends
  obtain ⟨front, rest⟩ := isPrefixOf_append plain ends t
  unfold word
  rw [front]
  split
  · next here =>
      obtain ⟨ends', same⟩ := rest here
      rw [String.length_toList] at ends' same
      rw [same]
      exact .ok _ ends' (List.drop_suffix ..)
  · exact .missing

theorem namedFloat_framed : Framed namedFloat := by
  intro u t ends
  unfold namedFloat
  obtain ⟨mark, r, here, there, ends, suffix⟩ := sign_append ends t
  rw [here, there]
  refine Agrees.longer ?_ suffix
  exact .orElse (word_framed (by decide) _ r t ends) (word_framed (by decide) _ r t ends)

theorem float_framed : Framed float := by
  intro u t ends
  exact .named (.orElse (finiteFloat_framed u t ends) (namedFloat_framed u t ends)) _

end Floats

/-! ## Dates and times -/

section Dates

theorem char_framed {c : Char} (other : c ≠ '\n') : Framed (Reading.char c) := by
  rintro (_ | ⟨d, r⟩) t ends
  · cases ends
  rw [List.cons_append, Reading.char, Reading.char]
  split
  · next same => exact .ok _ (ends.tail (same ▸ other)) (List.suffix_cons d r)
  · exact .missing

theorem fixed_framed (size : Nat) : Framed (fixed size) := by
  intro u t ends
  unfold fixed
  dsimp only
  split
  · next here =>
      rw [Bool.and_eq_true, decide_eq_true_eq] at here
      obtain ⟨take, drop, ends'⟩ := take_of_all rfl ends here.2 here.1 t
      rw [take, drop, if_pos (by rw [here.2, Bool.and_true]; exact decide_eq_true here.1)]
      exact .ok _ ends' (List.drop_suffix size u)
  · next none =>
      rw [if_neg]
      · exact .missing
      intro here
      -- so many digits of the longer text would reach beyond the line end
      rcases Nat.lt_or_ge u.length size with short | long
      · rw [Bool.and_eq_true, List.all_eq_true] at here
        have last := here.2 '\n' (by
          rw [List.take_append, List.take_of_length_le (Nat.le_of_lt short), List.mem_append]
          exact .inl (List.mem_of_getLast? ends))
        cases last
      · rw [List.take_append_of_le_length long] at here
        exact none here

theorem twoDigits_framed (low high : Nat) : Framed (twoDigits low high) := by
  intro u t ends
  refine (fixed_framed 2 u t ends).bind fun n r ends _ => ?_
  dsimp only
  split
  · exact .kept _ ends
  · exact .error _

theorem fullDate_framed : Framed fullDate := by
  intro u t ends
  refine (fixed_framed 4 u t ends).bind fun year r ends _ => ?_
  refine (char_framed (by decide) r t ends).bind fun _ r ends _ => ?_
  refine (twoDigits_framed 1 12 r t ends).commit.bind fun month r ends _ => ?_
  refine (char_framed (by decide) r t ends).commit.bind fun _ r ends _ => ?_
  refine (twoDigits_framed 1 31 r t ends).commit.bind fun day r ends _ => ?_
  dsimp only
  split
  · exact .refuse _
  · exact .kept _ ends

theorem secondFraction_trims : Trims secondFraction := by
  rintro (_ | ⟨c, r⟩) t ends
  · cases ends
  by_cases point : c = '.'
  · subst point
    obtain ⟨d, v, rfl⟩ := List.exists_cons_of_ne_nil (ends.tail (by decide)).ne_nil
    rw [List.cons_append, List.cons_append, secondFraction, secondFraction]
    split
    · next digit =>
        have ends := (ends.tail (by decide)).tail (ne_of_test digit rfl)
        obtain ⟨ends', suffix, same⟩ := dropWhile_trims (p := Decimal.isDigit) rfl v t ends
        exact ⟨ends', suffix.trans ⟨['.', d], rfl⟩, same⟩
    · exact ⟨ends, List.suffix_refl _, rfl⟩
  · have plain (v : List Char) : secondFraction (c :: v) = c :: v := by
      rw [secondFraction]
      exact fun _ _ same => point (List.cons.inj same).1
    rw [List.cons_append, plain, plain]
    exact ⟨ends, List.suffix_refl _, rfl⟩

theorem partialTime_framed : Framed partialTime := by
  intro u t ends
  refine (twoDigits_framed 0 23 u t ends).bind fun _ r ends _ => ?_
  refine (char_framed (by decide) r t ends).bind fun _ r ends _ => ?_
  refine (twoDigits_framed 0 59 r t ends).commit.bind fun _ r ends _ => ?_
  refine (char_framed (by decide) r t ends).commit.bind fun _ r ends _ => ?_
  refine (twoDigits_framed 0 60 r t ends).commit.bind fun _ r ends _ => ?_
  exact .trimmed secondFraction_trims () ends

theorem timeOffset_framed : Framed timeOffset := by
  rintro (_ | ⟨c, r⟩) t ends
  · cases ends
  rw [List.cons_append, timeOffset, timeOffset]
  split
  · next mark =>
      have other : c ≠ '\n' := by
        rintro rfl
        cases mark
      exact .ok _ (ends.tail other) (List.suffix_cons c r)
  split
  · next mark =>
      have other : c ≠ '\n' := by
        rintro rfl
        cases mark
      refine Agrees.longer (.named ?_ _) (List.suffix_cons c r)
      refine (twoDigits_framed 0 23 r t (ends.tail other)).commit.bind fun _ r ends _ => ?_
      refine (char_framed (by decide) r t ends).commit.bind fun _ r ends _ => ?_
      exact (twoDigits_framed 0 59 r t ends).commit.bind fun _ _ ends _ => .kept _ ends
  · exact .missing

theorem timeBehindDate_framed : Framed timeBehindDate := by
  rintro (_ | ⟨c, r⟩) t ends
  · cases ends
  rw [List.cons_append, timeBehindDate, timeBehindDate]
  split
  · next mark =>
      have other : c ≠ '\n' := by
        rintro rfl
        cases mark
      refine Agrees.longer ?_ (List.suffix_cons c r)
      refine (partialTime_framed r t (ends.tail other)).bind fun _ r ends _ => ?_
      exact .orElse (timeOffset_framed r t ends) (.kept _ ends)
  · exact .missing

theorem dateTime_framed : Framed dateTime := by
  intro u t ends
  refine Agrees.bind (.orElse (.named ?_ _) (.named (partialTime_framed u t ends) _))
    fun _ _ ends _ => .kept _ ends
  refine (fullDate_framed u t ends).bind fun _ r ends _ => ?_
  exact .orElse (timeBehindDate_framed r t ends) (.kept _ ends)

theorem number_framed : Framed number := by
  intro u t ends
  exact .orElse (.orElse (dateTime_framed u t ends) (float_framed u t ends))
    (integer_framed u t ends)

end Dates

end SqlDriver.Toml
