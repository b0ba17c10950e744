/-
# SqlDriver.Proofs.Decimal.Integer -- the texts that are integers

`Signed` is the grammar: one sign or none, and one or more ASCII digits, which stand for
the number that positional notation makes of them.  The reader accepts this grammar and
nothing else (`readInt?_eq_some_iff`).  A text may have white space around such a spelling
(`Spelled`), which trimming takes off and nothing more, for neither a sign nor a digit is
blank (`readInt?_trim`).

`texts_read_as_integers`: the integer view of a text is the integer that is spelled, if it
fits 64 bits, and the text in which an integer is shown spells it.
-/
import Mathlib.Data.Nat.Digits.Defs
import SqlDriver.Proofs.Text.Trim
import SqlDriver.Value

namespace SqlDriver.Decimal

set_option autoImplicit false

open SqlDriver.Text

variable {s ds : List Char} {k : Int}

/-! ## Digits -/

/-- One or more ASCII digits. -/
structure Digits (ds : List Char) : Prop where
  more : ds ≠ []
  ascii : ∀ c ∈ ds, '0' ≤ c ∧ c ≤ '9'

/-- The number that digits stand for, the last one counting ones. -/
def placeValue (ds : List Char) : Nat :=
  Nat.ofDigits 10 (ds.map digitValue).reverse

theorem valueOfDigits_eq_placeValue (ds : List Char) : valueOfDigits ds = placeValue ds := by
  induction ds using List.reverseRecOn with
  | nil => rfl
  | append_singleton ds c ih =>
      have last : valueOfDigits (ds ++ [c]) = 10 * valueOfDigits ds + digitValue c := by
        simp [valueOfDigits]
      have ones : placeValue (ds ++ [c]) = digitValue c + 10 * placeValue ds := by
        simp [placeValue, Nat.ofDigits_cons]
      rw [last, ones, ih, Nat.add_comm]

theorem isDigit_iff (c : Char) : isDigit c ↔ '0' ≤ c ∧ c ≤ '9' := by
  simp [isDigit]

theorem readNat?_eq_some_iff (n : Nat) : readNat? s = some n ↔ Digits s ∧ n = placeValue s := by
  have digits : s ≠ [] ∧ s.all isDigit ↔ Digits s := by
    simp only [List.all_eq_true, isDigit_iff]
    exact ⟨fun h => ⟨h.1, h.2⟩, fun h => ⟨h.more, h.ascii⟩⟩
  rw [readNat?, ← valueOfDigits_eq_placeValue]
  split
  · next row => simp [digits.mp row, eq_comm]
  · next row => simp [mt digits.mpr row]

theorem map_readNat?_eq_some_iff (f : Nat → Int) :
    (readNat? s).map f = some k ↔ Digits s ∧ k = f (placeValue s) := by
  simp only [Option.map_eq_some_iff, readNat?_eq_some_iff]
  constructor
  · rintro ⟨n, ⟨digits, rfl⟩, rfl⟩
    exact ⟨digits, rfl⟩
  · rintro ⟨digits, rfl⟩
    exact ⟨_, ⟨digits, rfl⟩, rfl⟩

theorem isBlank_of_digit {c : Char} (digit : '0' ≤ c ∧ c ≤ '9') : isBlank c = false := by
  have low : 48 ≤ c.toNat := digit.1
  have high : c.toNat ≤ 57 := digit.2
  rw [Bool.eq_false_iff]
  simp only [isBlank, ne_eq, Bool.or_eq_true, Bool.and_eq_true, decide_eq_true_eq, beq_iff_eq]
  omega

/-! ## Signs -/

/-- A text that is an integer. -/
inductive Signed : List Char → Int → Prop where
  | bare {ds : List Char} (digits : Digits ds) : Signed ds (placeValue ds)
  | plus {ds : List Char} (digits : Digits ds) : Signed ('+' :: ds) (placeValue ds)
  | minus {ds : List Char} (digits : Digits ds) : Signed ('-' :: ds) (-(placeValue ds : Int))

theorem readInt?_minus (r : List Char) :
    readInt? ('-' :: r) = (readNat? r).map fun n : Nat => -(n : Int) := by
  cases natural : readNat? r <;> simp [readInt?, natural]

theorem readInt?_plus (r : List Char) :
    readInt? ('+' :: r) = (readNat? r).map fun n : Nat => (n : Int) := by
  cases natural : readNat? r <;> simp [readInt?, natural]

theorem readInt?_bare (unsigned : ∀ c ∈ s.head?, c ≠ '-' ∧ c ≠ '+') :
    readInt? s = (readNat? s).map fun n : Nat => (n : Int) := by
  unfold readInt?
  split
  · exact absurd rfl (unsigned '-' rfl).1
  · exact absurd rfl (unsigned '+' rfl).2
  · cases readNat? s <;> rfl

theorem Digits.unsigned (digits : Digits ds) : ∀ c ∈ ds.head?, c ≠ '-' ∧ c ≠ '+' := by
  intro c first
  have digit := digits.ascii c (List.mem_of_mem_head? first)
  constructor
  · rintro rfl
    exact absurd digit (by decide)
  · rintro rfl
    exact absurd digit (by decide)

/-- The reader accepts the grammar and nothing else. -/
theorem readInt?_eq_some_iff : readInt? s = some k ↔ Signed s k := by
  constructor
  · intro read
    by_cases minus : s.head? = some '-'
    · obtain ⟨r, rfl⟩ := List.head?_eq_some_iff.mp minus
      rw [readInt?_minus, map_readNat?_eq_some_iff] at read
      obtain ⟨digits, rfl⟩ := read
      exact .minus digits
    · by_cases plus : s.head? = some '+'
      · obtain ⟨r, rfl⟩ := List.head?_eq_some_iff.mp plus
        rw [readInt?_plus, map_readNat?_eq_some_iff] at read
        obtain ⟨digits, rfl⟩ := read
        exact .plus digits
      · have unsigned : ∀ c ∈ s.head?, c ≠ '-' ∧ c ≠ '+' := by
          intro c first
          constructor
          · rintro rfl
            exact minus first
          · rintro rfl
            exact plus first
        rw [readInt?_bare unsigned, map_readNat?_eq_some_iff] at read
        obtain ⟨digits, rfl⟩ := read
        exact .bare digits
  · intro signed
    cases signed with
    | bare digits =>
        rw [readInt?_bare digits.unsigned, map_readNat?_eq_some_iff]
        exact ⟨digits, rfl⟩
    | plus digits =>
        rw [readInt?_plus, map_readNat?_eq_some_iff]
        exact ⟨digits, rfl⟩
    | minus digits =>
        rw [readInt?_minus, map_readNat?_eq_some_iff]
        exact ⟨digits, rfl⟩

/-! ## White space around -/

/-- An integer between white space. -/
def Spelled (s : List Char) (k : Int) : Prop :=
  ∃ front t back, s = front ++ t ++ back ∧ AllBlank front ∧ AllBlank back ∧ Signed t k

theorem Digits.last (digits : Digits ds) (front : List Char) :
    ∀ c ∈ (front ++ ds).getLast?, isBlank c = false := by
  intro c last
  have inside : c ∈ ds := by
    have same : ds.getLast? = some c := by
      rw [List.getLast?_append_of_ne_nil _ digits.more] at last
      exact last
    exact List.mem_of_getLast? same
  exact isBlank_of_digit (digits.ascii c inside)

/-- Neither a sign nor a digit is blank. -/
theorem Signed.bare_text (signed : Signed s k) : Bare s := by
  cases signed with
  | bare digits =>
      refine ⟨?_, digits.last []⟩
      intro c first
      exact isBlank_of_digit (digits.ascii c (List.mem_of_mem_head? first))
  | plus digits =>
      refine ⟨?_, digits.last ['+']⟩
      intro c first
      obtain rfl : '+' = c := by simpa using first
      decide
  | minus digits =>
      refine ⟨?_, digits.last ['-']⟩
      intro c first
      obtain rfl : '-' = c := by simpa using first
      decide

theorem readInt?_trim : readInt? (trim s) = some k ↔ Spelled s k := by
  rw [readInt?_eq_some_iff]
  constructor
  · intro signed
    obtain ⟨front, back, blankFront, blankBack, parts⟩ := exists_trim s
    exact ⟨front, trim s, back, parts, blankFront, blankBack, signed⟩
  · rintro ⟨front, t, back, rfl, blankFront, blankBack, signed⟩
    rwa [trim_between blankFront blankBack signed.bare_text]

theorem readInt64?_eq_some_iff (n : Int64) : readInt64? s = some n ↔ readInt? s = some n.toInt := by
  rw [readInt64?, Option.bind_eq_some_iff]
  constructor
  · rintro ⟨k, read, fits⟩
    split at fits
    · next within =>
      obtain rfl := Option.some.inj fits
      rw [read, Int64.toInt_ofInt_of_le within.1 (Int.lt_of_le_of_lt within.2 (by decide))]
    · cases fits
  · intro read
    refine ⟨n.toInt, read, ?_⟩
    rw [if_pos ⟨n.minValue_le_toInt, n.toInt_le⟩, Int64.ofInt_toInt]

theorem readInt64?_eq_none_iff :
    readInt64? s = none ↔ ∀ k, readInt? s = some k → k < -2 ^ 63 ∨ 2 ^ 63 ≤ k := by
  rw [readInt64?, Option.bind_eq_none_iff]
  refine forall_congr' fun k => forall_congr' fun _ => ?_
  have low : Int64.minValue.toInt = -2 ^ 63 := by decide
  have high : Int64.maxValue.toInt = 2 ^ 63 - 1 := by decide
  rw [low, high, ite_eq_right_iff]
  simp only [reduceCtorEq, imp_false, not_and_or]
  omega

/-! ## Integers as they are shown -/

theorem digits_toDigits (n : Nat) : Digits (Nat.toDigits 10 n) where
  more := Nat.toDigits_ne_nil
  ascii c among := by
    rw [← isDigit_iff]
    exact Nat.isDigit_of_mem_toDigits (by decide) (by decide) among

theorem placeValue_toDigits (n : Nat) : placeValue (Nat.toDigits 10 n) = n := by
  rw [← valueOfDigits_eq_placeValue]
  exact Nat.ofDigitChars_ten_toDigits

theorem signed_toString (k : Int) : Signed (toString k).toList k := by
  cases k with
  | ofNat m =>
      have shown : (toString (Int.ofNat m)).toList = Nat.toDigits 10 m :=
        String.toList_ofList
      rw [shown]
      have signed := Signed.bare (digits_toDigits m)
      rwa [placeValue_toDigits] at signed
  | negSucc m =>
      have shown : (toString (Int.negSucc m)).toList = '-' :: Nat.toDigits 10 (m + 1) := by
        change ("-" ++ String.ofList (Nat.toDigits 10 (m + 1))).toList = _
        simp
      rw [shown]
      have signed := Signed.minus (digits_toDigits (m + 1))
      rwa [placeValue_toDigits] at signed

end SqlDriver.Decimal

namespace SqlDriver.Value

open SqlDriver.Text SqlDriver.Decimal

/-- The integer view of a text is the integer that it spells, and there is none if it spells
none or one that does not fit 64 bits.  The text in which an integer is shown is read as that
integer, whatever white space stands around it. -/
theorem texts_read_as_integers (s : String) :
    (∀ n, asInt (.text s) = some n ↔ Spelled s.toList n.toInt) ∧
    (asInt (.text s) = none ↔ ∀ k, Spelled s.toList k → k < -2 ^ 63 ∨ 2 ^ 63 ≤ k) ∧
    ∀ n front back, AllBlank front → AllBlank back →
      s.toList = front ++ (display (.integer n)).toList ++ back → asInt (.text s) = some n := by
  have accepts (n : Int64) : asInt (.text s) = some n ↔ Spelled s.toList n.toInt := by
    rw [asInt, readInt64?_eq_some_iff, readInt?_trim]
  refine ⟨accepts, ?_, ?_⟩
  · simp only [asInt, readInt64?_eq_none_iff, readInt?_trim]
  · intro n front back blankFront blankBack shown
    apply (accepts n).mpr
    exact ⟨front, _, back, shown, blankFront, blankBack, signed_toString n.toInt⟩

/-- The least integer between blanks beyond ASCII, and the first one that is too small. -/
example : asInt (.text "\u2003-9223372036854775808\n") = some Int64.minValue ∧
    asInt (.text "-9223372036854775809") = none ∧ asInt (.text "+007") = some 7 ∧
    asInt (.text "1_0") = none ∧ asInt (.text "+") = none := by decide +kernel

end SqlDriver.Value
