/-
# SqlDriver.Proofs.Toml.Spelling -- values as they are written are read back

Natural numbers in decimal digits, truth values, and texts between double quotes, where each
character stands for itself or is escaped in any of the ways that there are (`Spells`), are read
as what they spell (`value_digits`, `value_boolean`, `value_spelled`), and so is a line that puts
one of them under a bare key (`pair_bare`).
-/
import SqlDriver.Proofs.Toml.Pairs
import Mathlib.Algebra.Group.Nat.Defs

namespace SqlDriver.Toml

set_option autoImplicit false

/-! ## Readings that leave the place to others -/

/-- Another reading of the place is tried. -/
def Missed {α : Type} (a : Except Failure α) : Prop :=
  ∃ f, a = .error f ∧ f.final = false

namespace Missed

variable {α β : Type} {a : Except Failure α}

theorem missing : Missed (Reading.missing : Except Failure α) :=
  ⟨_, rfl, rfl⟩

theorem bind {f : α → Except Failure β} (missed : Missed a) : Missed (a >>= f) := by
  obtain ⟨f, rfl, other⟩ := missed
  exact ⟨f, rfl, other⟩

theorem named (missed : Missed a) (name : String) : Missed (Reading.named name a) := by
  obtain ⟨f, rfl, other⟩ := missed
  exact ⟨_, rfl, other⟩

theorem orElse {b : Unit → Except Failure α} (missed : Missed a) : Reading.orElse a b = b () := by
  obtain ⟨f, rfl, other⟩ := missed
  unfold Reading.orElse
  dsimp only
  rw [other]
  rfl

end Missed

/-! ## Natural numbers -/

/-- A row of digits without a needless zero at its front. -/
structure Numeral (ds : List Char) : Prop where
  digits : ∀ c ∈ ds, Decimal.isDigit c = true
  more : ds ≠ []
  lead : ∀ r, ds = '0' :: r → r = []

section Digits

variable {ds r : List Char}

/-- Digits up to the end of a line. -/
theorem moreDigits_row (digits : ∀ c ∈ ds, Decimal.isDigit c = true) :
    moreDigits Decimal.isDigit (ds ++ '\n' :: r) = .ok (ds, '\n' :: r) := by
  induction ds with
  | nil => rfl
  | cons c ds ih =>
      have digit := digits c (.head _)
      have other : c ≠ '_' := ne_of_test digit rfl
      rw [List.cons_append, moreDigits_cons other, if_pos digit,
        ih fun d among => digits d (.tail _ among)]
      rfl

theorem char_row {c : Char} (other : Decimal.isDigit c = false) (feed : c ≠ '\n')
    (digits : ∀ c ∈ ds, Decimal.isDigit c = true) :
    Reading.char c (ds ++ '\n' :: r) = Reading.missing := by
  cases ds with
  | nil => exact if_neg (Ne.symm feed)
  | cons d ds =>
      exact if_neg (ne_of_test (digits d (.head _)) other)

theorem fixed_row (size : Nat) (ds r : List Char) :
    fixed size (ds ++ '\n' :: r) = Reading.missing ∨
      ∃ v, fixed size (ds ++ '\n' :: r) = .ok (v, ds.drop size ++ '\n' :: r) := by
  unfold fixed
  dsimp only
  split
  · next here =>
      rw [Bool.and_eq_true, List.all_eq_true] at here
      rcases Nat.lt_or_ge ds.length size with short | long
      · have last := here.2 '\n' (by
          rw [List.take_append, List.mem_append]
          obtain ⟨k, more⟩ := Nat.exists_eq_add_of_lt short
          rw [more, Nat.add_assoc, Nat.add_sub_cancel_left]
          exact .inr (.head _))
        cases last
      · rw [List.drop_append_of_le_length long]
        exact .inr ⟨_, rfl⟩
  · exact .inl rfl

/-- Two digits of a row are read, or they are missed. -/
theorem twoDigits_row (low high : Nat) (ds r : List Char) :
    Missed (twoDigits low high (ds ++ '\n' :: r)) ∨
      ∃ v, twoDigits low high (ds ++ '\n' :: r) = .ok (v, ds.drop 2 ++ '\n' :: r) := by
  unfold twoDigits
  obtain missing | ⟨v, read⟩ := fixed_row 2 ds r
  · rw [missing]
    exact .inl (.bind .missing)
  · rw [read]
    dsimp only [bind, Except.bind]
    split
    · exact .inr ⟨v, rfl⟩
    · exact .inl ⟨_, rfl, rfl⟩

/-- A number is no date and no time: a sign has to follow its first digits. -/
theorem dateTime_row (digits : ∀ c ∈ ds, Decimal.isDigit c = true) :
    Missed (dateTime (ds ++ '\n' :: r)) := by
  have behind (size : Nat) : ∀ c ∈ ds.drop size, Decimal.isDigit c = true :=
    fun c among => digits c (List.mem_of_mem_drop among)
  have date : Missed (fullDate (ds ++ '\n' :: r)) := by
    obtain missing | ⟨v, read⟩ := fixed_row 4 ds r
    · unfold fullDate
      rw [missing]
      exact .bind .missing
    · unfold fullDate
      rw [read]
      show Missed (Reading.char '-' _ >>= _)
      rw [char_row rfl (by decide) (behind 4)]
      exact .bind .missing
  have time : Missed (partialTime (ds ++ '\n' :: r)) := by
    unfold partialTime
    obtain missed | ⟨v, read⟩ := twoDigits_row 0 23 ds r
    · exact missed.bind
    · rw [read]
      show Missed (Reading.char ':' _ >>= _)
      rw [char_row rfl (by decide) (behind 2)]
      exact .bind .missing
  unfold dateTime
  rw [((date.bind).named _).orElse]
  exact (time.named _).bind

theorem sign_row (digits : ∀ c ∈ ds, Decimal.isDigit c = true) :
    sign (ds ++ '\n' :: r) = (none, ds ++ '\n' :: r) := by
  cases ds with
  | nil => rfl
  | cons c ds =>
      rw [List.cons_append, sign_cons, if_neg]
      rintro (rfl | rfl) <;> cases digits _ (.head _)

theorem decimalDigits_row (numeral : Numeral ds) :
    decimalDigits (ds ++ '\n' :: r) = .ok ((none, ds), '\n' :: r) := by
  rw [decimalDigits_eq (sign_row numeral.digits)]
  obtain ⟨c, rest, rfl⟩ := List.exists_cons_of_ne_nil numeral.more
  rw [List.cons_append, zeroOrDigits_cons]
  split
  · next zero =>
      subst zero
      rw [numeral.lead rest rfl]
      rfl
  · rw [digits, if_pos (numeral.digits c (.head _)),
      moreDigits_row fun d among => numeral.digits d (.tail _ among)]
    rfl

/-- A row of digits is no word. -/
theorem word_row {name : String} {node : Node} {d : Char} {rest : List Char}
    (first : name.toList = d :: rest) (other : Decimal.isDigit d = false) (numeral : Numeral ds) :
    word name node (ds ++ '\n' :: r) = Reading.missing := by
  obtain ⟨c, ds, rfl⟩ := List.exists_cons_of_ne_nil numeral.more
  have apart : d ≠ c := (ne_of_test (numeral.digits c (.head _)) other).symm
  unfold word
  rw [first, List.cons_append, List.isPrefixOf_cons_cons, beq_false_of_ne apart, Bool.false_and]
  rfl

/-- A number without a point and an exponent is no float. -/
theorem float_row (numeral : Numeral ds) : Missed (float (ds ++ '\n' :: r)) := by
  have finite : Missed (finiteFloat (ds ++ '\n' :: r)) := by
    unfold finiteFloat
    rw [decimalDigits_row numeral]
    exact ⟨_, rfl, rfl⟩
  unfold float
  rw [finite.orElse]
  refine .named ?_ _
  unfold namedFloat
  rw [sign_row numeral.digits]
  dsimp only
  rw [word_row (d := 'i') rfl rfl numeral, Missed.missing.orElse]
  rw [word_row (d := 'n') rfl rfl numeral]
  exact .missing

theorem integer_row (numeral : Numeral ds) :
    integer (ds ++ '\n' :: r) = integerValue (Decimal.valueOfDigits ds) ('\n' :: r) := by
  have decimal : decimalInteger (ds ++ '\n' :: r) =
      integerValue (Decimal.valueOfDigits ds) ('\n' :: r) := by
    unfold decimalInteger
    rw [decimalDigits_row numeral]
    rfl
  rw [← decimal]
  obtain ⟨c, rest, rfl⟩ := List.exists_cons_of_ne_nil numeral.more
  by_cases zero : c = '0'
  · subst zero
    rw [numeral.lead rest rfl]
    exact integer_zero '\n' r
  · exact integer_decimal zero _

theorem number_row (numeral : Numeral ds) :
    number (ds ++ '\n' :: r) = integerValue (Decimal.valueOfDigits ds) ('\n' :: r) := by
  unfold number
  rw [(dateTime_row numeral.digits).orElse, (float_row numeral).orElse, integer_row numeral]

end Digits

theorem isDigit_eq (c : Char) : Decimal.isDigit c = c.isDigit := rfl

theorem valueOfDigits_toDigits (n : Nat) : Decimal.valueOfDigits (Nat.toDigits 10 n) = n :=
  Nat.ofDigitChars_ten_toDigits

theorem numeral_toDigits (n : Nat) : Numeral (Nat.toDigits 10 n) where
  digits c among := by
    rw [isDigit_eq]
    exact Nat.isDigit_of_mem_toDigits (by decide) (by decide) among
  more := Nat.toDigits_ne_nil
  lead r same := by
    induction n using Nat.strongRecOn generalizing r with
    | ind n ih =>
        rcases Nat.lt_or_ge n 10 with small | large
        · rw [Nat.toDigits_of_lt_base small] at same
          exact (List.cons.inj same).2.symm
        · -- the digits before the last one are those of `n / 10`, which would be zero
          rw [Nat.toDigits_of_base_le (by decide) large] at same
          have more : Nat.toDigits 10 (n / 10) ≠ [] := Nat.toDigits_ne_nil
          obtain ⟨c, ds, front⟩ := List.exists_cons_of_ne_nil more
          rw [front, List.cons_append] at same
          obtain ⟨rfl, -⟩ := List.cons.inj same
          obtain rfl := ih (n / 10) (by omega) ds front
          have zero := valueOfDigits_toDigits (n / 10)
          rw [front] at zero
          have zero : 0 = n / 10 := zero
          omega

/-- A number in decimal digits is read as that number, if it fits. -/
theorem value_digits (depth : Nat) {n : Nat} (small : n < 2 ^ 63) (r : List Char) :
    value depth (Nat.toDigits 10 n ++ '\n' :: r) = .ok (.integer (Int64.ofNat n), '\n' :: r) := by
  have numeral := numeral_toDigits n
  have read := number_row (r := r) numeral
  obtain ⟨c, ds, same⟩ := List.exists_cons_of_ne_nil numeral.more
  have digit := numeral.digits c (same ▸ .head _)
  have other (d : Char) (not : Decimal.isDigit d = false) : c ≠ d := ne_of_test digit not
  rw [valueOfDigits_toDigits, same, List.cons_append] at read
  rw [same, List.cons_append, value_cons, if_neg, if_neg (other '[' rfl), if_neg (other '\x7b' rfl)]
  · unfold bareValue
    rw [if_pos (by rw [digit, Bool.or_true]), read]
    unfold integerValue
    rw [if_neg, if_neg]
    · rfl
    · show ¬(2 ^ 63 - 1 : Int) < n
      omega
    · show ¬(n : Int) < -2 ^ 63
      omega
  · simp [other '"' rfl, other '\'' rfl]

theorem value_boolean (depth : Nat) (b : Bool) (r : List Char) :
    value depth ((toString b).toList ++ '\n' :: r) = .ok (.boolean b, '\n' :: r) := by
  cases b <;> exact value_cons ..

/-! ## Texts -/

/-- What stands behind a backslash for a character. -/
inductive Escape : List Char → Char → Prop where
  | backspace : Escape ['b'] '\x08'
  | tab : Escape ['t'] '\t'
  | feed : Escape ['n'] '\n'
  | formFeed : Escape ['f'] '\x0c'
  | carriageReturn : Escape ['r'] '\r'
  | quote : Escape ['"'] '"'
  | backslash : Escape ['\\'] '\\'
  | four {hex : List Char} (length : hex.length = 4) (digits : hex.all isHexDigit)
      (valid : (hexValue hex).isValidChar) : Escape ('u' :: hex) (Char.ofNat (hexValue hex))
  | eight {hex : List Char} (length : hex.length = 8) (digits : hex.all isHexDigit)
      (valid : (hexValue hex).isValidChar) : Escape ('U' :: hex) (Char.ofNat (hexValue hex))

/-- What stands between double quotes for a text: each character for itself or escaped. -/
inductive Spells : List Char → List Char → Prop where
  | nil : Spells [] []
  | plain {c : Char} {t s : List Char} (plain : isPlain c) (quote : c ≠ '"') (backslash : c ≠ '\\')
      (rest : Spells t s) : Spells (c :: t) (c :: s)
  | escape {e : List Char} {c : Char} {t s : List Char} (escape : Escape e c) (rest : Spells t s) :
      Spells ('\\' :: (e ++ t)) (c :: s)

section Texts

variable {e t s r : List Char} {c : Char}

/-- A code point in hexadecimal digits is read back. -/
theorem codePoint_of_hex {size : Nat} {hex : List Char} (length : hex.length = size)
    (digits : hex.all isHexDigit) (valid : (hexValue hex).isValidChar) (r : List Char) :
    codePoint size (hex ++ r) = .ok (Char.ofNat (hexValue hex), r) := by
  have whole : hex.takeWhile isHexDigit = hex :=
    List.takeWhile_eq_self_iff.2 (List.all_eq_true.1 digits)
  unfold codePoint
  rw [List.take_left' length, List.drop_left' length, whole]
  dsimp only
  rw [if_neg (not_not_intro length), if_pos valid]

theorem escaped_of_escape (escape : Escape e c) (r : List Char) :
    escaped (e ++ r) = .ok (c, r) := by
  cases escape with
  | four length digits valid => exact codePoint_of_hex length digits valid r
  | eight length digits valid => exact codePoint_of_hex length digits valid r
  | _ => rfl

theorem Spells.length_le (spells : Spells t s) : s.length ≤ t.length := by
  induction spells with
  | nil => exact Nat.le_refl _
  | plain _ _ _ _ ih => exact Nat.succ_le_succ ih
  | escape _ _ ih =>
      simp only [List.length_cons, List.length_append]
      omega

/-- The induction is on the spelling: each character takes one unit of fuel. -/
theorem basicBody_spelled (spells : Spells t s) {n : Nat} (enough : s.length < n) (r : List Char) :
    basicBody n (t ++ '"' :: r) = .ok (s, r) := by
  induction spells generalizing n with
  | nil =>
      obtain ⟨n, rfl⟩ := Nat.exists_eq_add_one_of_ne_zero (Nat.ne_of_gt enough)
      rfl
  | plain plain quote backslash _ ih =>
      obtain ⟨n, rfl⟩ := Nat.exists_eq_add_one_of_ne_zero (Nat.ne_of_gt (Nat.zero_lt_of_lt enough))
      rw [List.cons_append, basicBody_cons, if_neg quote, if_neg backslash, if_pos plain,
        ih (Nat.lt_of_succ_lt_succ enough)]
      rfl
  | escape escape _ ih =>
      obtain ⟨n, rfl⟩ := Nat.exists_eq_add_one_of_ne_zero (Nat.ne_of_gt (Nat.zero_lt_of_lt enough))
      rw [List.cons_append, List.append_assoc, basicBody_cons, if_neg (by decide), if_pos rfl,
        escapeThen, escaped_of_escape escape]
      dsimp only [attempt]
      rw [ih (Nat.lt_of_succ_lt_succ enough)]
      rfl

/-- A text between double quotes is read as what it spells. -/
theorem value_spelled (depth : Nat) (spells : Spells t s) (r : List Char) :
    value depth ('"' :: (t ++ '"' :: '\n' :: r)) = .ok (.string (String.ofList s), '\n' :: r) := by
  have one (v : List Char) : t ++ '"' :: '\n' :: r ≠ '"' :: '"' :: v := by
    cases spells with
    | nil => simp
    | plain _ quote => exact fun same => quote (List.cons.inj same).1
    | escape => simp
  have enough : s.length < (t ++ '"' :: '\n' :: r).length + 1 := by
    have le := spells.length_le
    rw [List.length_append]
    omega
  rw [value_cons, if_pos (by decide), quotedText_basic one, basicBody_spelled spells enough]
  rfl

/-- Four hexadecimal digits of a small number are its own. -/
theorem fourHexDigits_spec :
    ∀ n < 128, (fourHexDigits n).length = 4 ∧ (fourHexDigits n).all isHexDigit ∧
      hexValue (fourHexDigits n) = n := by
  decide

theorem escape_control (control : isControl c) : Escape ('u' :: fourHexDigits c.toNat) c := by
  have small : c.toNat < 128 := by
    unfold isControl at control
    rw [Bool.or_eq_true, decide_eq_true_eq, decide_eq_true_eq] at control
    omega
  obtain ⟨length, digits, value⟩ := fourHexDigits_spec c.toNat small
  have escape := Escape.four length digits (by rw [value]; exact c.valid)
  rw [value, Char.ofNat_toNat] at escape
  exact escape

/-- Every text can be spelled, with escapes where they are needed. -/
theorem spells_escapeChar (s : List Char) : Spells (s.flatMap escapeChar) s := by
  induction s with
  | nil => exact .nil
  | cons c s ih =>
      rw [List.flatMap_cons]
      unfold escapeChar
      split
      · exact .escape .quote ih
      · exact .escape .backslash ih
      · exact .escape .backspace ih
      · exact .escape .tab ih
      · exact .escape .feed ih
      · exact .escape .formFeed ih
      · exact .escape .carriageReturn ih
      split
      · next control => exact .escape (escape_control control) ih
      · next quote backslash _ _ _ _ _ visible =>
          exact .plain (by simp [isPlain, visible]) quote backslash ih

end Texts

/-! ## Lines -/

section Lines

variable {k : String} {s r : List Char} {v : Node}

theorem key_bare (more : k.toList ≠ []) (bare : k.toList.all isBareKeyChar) (r : List Char) :
    key (k.toList ++ ' ' :: '=' :: r) = .ok (([], k), '=' :: r) := by
  obtain ⟨c, cs, same⟩ := List.exists_cons_of_ne_nil more
  have letter : isBareKeyChar c := List.all_eq_true.1 bare c (same ▸ .head _)
  have other (d : Char) (not : isBareKeyChar d = false) : c ≠ d := ne_of_test letter not
  have spaced : spacedKey (k.toList ++ ' ' :: '=' :: r) = .ok (k, '=' :: r) := by
    have solid : skipBlanks (k.toList ++ ' ' :: '=' :: r) = k.toList ++ ' ' :: '=' :: r := by
      rw [same, List.cons_append]
      refine List.dropWhile_cons_of_neg ?_
      simp [isBlankChar, other ' ' rfl, other '\t' rfl]
    have simple : simpleKey (k.toList ++ ' ' :: '=' :: r) = .ok (k, ' ' :: '=' :: r) := by
      rw [same, List.cons_append, simpleKey_bare (other '"' rfl) (other '\'' rfl),
        ← List.cons_append, ← same, List.takeWhile_append_of_pos (List.all_eq_true.1 bare),
        List.dropWhile_append_of_pos (List.all_eq_true.1 bare),
        List.takeWhile_cons_of_neg (by decide), List.dropWhile_cons_of_neg (by decide),
        List.append_nil, if_neg (by simp [same]), String.ofList_toList]
    unfold spacedKey
    rw [solid, simple]
    rfl
  unfold key
  rw [spaced]
  rfl

/-- A line that puts a value under a bare key. -/
theorem pair_bare (more : k.toList ≠ []) (bare : k.toList.all isBareKeyChar)
    (solid : skipBlanks (s ++ ['\n']) = s ++ ['\n'])
    (read : value (depthLimit - 1) (s ++ ['\n']) = .ok (v, ['\n'])) :
    pair (k.toList ++ ' ' :: '=' :: ' ' :: (s ++ ['\n'])) = .ok (([], k, v), []) := by
  have front : pairFront (k.toList ++ ' ' :: '=' :: ' ' :: (s ++ ['\n'])) =
      .ok (([], k, v), ['\n']) := by
    unfold pairFront
    rw [key_bare more bare]
    show Reading.commit (value (depthLimit - 1) (skipBlanks (s ++ ['\n']))) >>= _ = _
    rw [solid, read]
    rfl
  unfold pair
  rw [front]
  rfl

end Lines

end SqlDriver.Toml
