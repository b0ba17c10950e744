/-
# SqlDriver.Proofs.Heap.References -- references that are given up

`Loses h g lost` says that `g` is `h` where every object has lost as many references as `lost`
says, and is gone if those were all it had.  Losses add up (`Loses.trans`), so what an array
and its elements lose does not depend on which of them is given up first:
`loses_releaseStrings` and `loses_releaseValues` are one statement about two orders.
-/
import Mathlib.Algebra.Group.Pi.Basic
import Mathlib.Algebra.GroupWithZero.Nat
import SqlDriver.Proofs.Heap.Array

namespace SqlDriver

set_option autoImplicit false

/-- What is left of an object that loses references. -/
def Object.lose (n : Nat) (o : Object) : Option Object :=
  if n < o.references then some { o with references := o.references - n } else none

theorem Object.lose_lose (m n : Nat) (o : Object) :
    (o.lose m).bind (·.lose n) = o.lose (m + n) := by
  unfold lose
  by_cases first : m < o.references
  · rw [if_pos first, Option.bind_some]
    by_cases second : n < o.references - m
    · rw [if_pos second, if_pos (show m + n < o.references by omega)]
      simp [Nat.sub_sub]
    · rw [if_neg second, if_neg (show ¬ m + n < o.references by omega)]
  · rw [if_neg first, if_neg (show ¬ m + n < o.references by omega), Option.bind_none]

namespace Heap

variable {h g k : Heap} {a b : Address} {lost more : Address → Nat}

/-! ## Counts -/

/-- The number of references to what lies at an address; none where nothing lies. -/
def count (h : Heap) (a : Address) : Nat :=
  (h.references? a).getD 0

/-- Nothing lies nowhere, and whatever lies somewhere is referred to. -/
structure Proper (h : Heap) : Prop where
  nowhere : h.get? 0 = none
  counted : ∀ a o, h.get? a = some o → 0 < o.references

theorem count_of_get? {o : Object} (there : h.get? a = some o) : h.count a = o.references := by
  simp [count, references?, there]

theorem count_of_none (gone : h.get? a = none) : h.count a = 0 := by
  simp [count, references?, gone]

theorem Proper.gone_iff (proper : h.Proper) : h.get? a = none ↔ h.count a = 0 := by
  constructor
  · exact count_of_none
  · intro zero
    cases there : h.get? a with
    | none => rfl
    | some o =>
        have counted := proper.counted a o there
        rw [count_of_get? there] at zero
        omega

theorem Proper.exists_of_count (proper : h.Proper) (referred : 0 < h.count a) :
    ∃ o, h.get? a = some o := by
  apply Option.ne_none_iff_exists'.mp
  intro gone
  rw [proper.gone_iff] at gone
  omega

theorem Proper.ne_zero (proper : h.Proper) {o : Object} (there : h.get? a = some o) : a ≠ 0 := by
  rintro rfl
  rw [proper.nowhere] at there
  cases there

theorem Proper.ne_zero_of_count (proper : h.Proper) (referred : 0 < h.count a) : a ≠ 0 := by
  obtain ⟨o, there⟩ := proper.exists_of_count referred
  exact proper.ne_zero there

theorem wordsAt_of_gone (gone : h.get? a = none) : h.wordsAt? a = none := by
  rw [wordsAt?, gone]
  rfl

theorem wordsAt_of_body {o : Object} {words : List Int64} {capacity : Nat}
    (there : h.get? a = some o) (body : o.body = .array words capacity) :
    h.wordsAt? a = some words := by
  rw [wordsAt?, there, Option.map_some, body]

/-- One reference to what lies at an address; there is none to nowhere. -/
def once (a : Address) (b : Address) : Nat :=
  if b = a ∧ b ≠ 0 then 1 else 0

@[simp] theorem once_zero : once 0 = 0 := by
  funext b
  simp [once]

theorem once_self (somewhere : a ≠ 0) : once a a = 1 := by
  simp [once, somewhere]

theorem once_of_ne (other : b ≠ a) : once a b = 0 := by
  simp [once, other]

/-! ## Losses -/

/-- Every object has lost as many references as is said, and is gone if it had no more. -/
structure Loses (h g : Heap) (lost : Address → Nat) : Prop where
  next : g.objects.next = h.objects.next
  left : ∀ a, g.get? a = (h.get? a).bind (·.lose (lost a))

theorem Proper.lose_zero (proper : h.Proper) (a : Address) :
    (h.get? a).bind (·.lose 0) = h.get? a := by
  cases there : h.get? a with
  | none => rfl
  | some o => simp [Object.lose, proper.counted a o there]

theorem Loses.refl (proper : h.Proper) : Loses h h 0 where
  next := rfl
  left a := (proper.lose_zero a).symm

/-- What is lost one after the other is lost in all. -/
theorem Loses.trans (loses : Loses h g lost) (then_loses : Loses g k more) :
    Loses h k (lost + more) where
  next := then_loses.next.trans loses.next
  left a := by
    rw [then_loses.left, loses.left, Option.bind_assoc]
    simp only [Object.lose_lose, Pi.add_apply]

theorem Loses.exists_of_get? (loses : Loses h g lost) {o' : Object} (there : g.get? a = some o') :
    ∃ o, h.get? a = some o ∧ o'.body = o.body ∧ 0 < o'.references := by
  rw [loses.left, Option.bind_eq_some_iff] at there
  obtain ⟨o, before, left⟩ := there
  unfold Object.lose at left
  split at left
  · obtain rfl := Option.some.inj left
    exact ⟨o, before, rfl, by simp only; omega⟩
  · cases left

theorem Loses.proper (proper : h.Proper) (loses : Loses h g lost) : g.Proper where
  nowhere := by rw [loses.left, proper.nowhere, Option.bind_none]
  counted a o' there := by
    obtain ⟨-, -, -, referred⟩ := loses.exists_of_get? there
    exact referred

theorem Loses.count (loses : Loses h g lost) (a : Address) :
    g.count a = h.count a - lost a := by
  cases there : h.get? a with
  | none =>
      have gone : g.get? a = none := by rw [loses.left, there, Option.bind_none]
      rw [count_of_none gone, count_of_none there, Nat.zero_sub]
  | some o =>
      have left : g.get? a = o.lose (lost a) := by rw [loses.left, there, Option.bind_some]
      rw [count_of_get? there]
      unfold Object.lose at left
      split at left
      · exact count_of_get? left
      · rw [count_of_none left]
        omega

/-- What loses nothing is left as it is. -/
theorem Loses.same (proper : h.Proper) (loses : Loses h g lost) (none_lost : lost a = 0) :
    g.get? a = h.get? a := by
  rw [loses.left, none_lost, proper.lose_zero]

theorem loses_release (proper : h.Proper) (a : Address) : Loses h (h.release a) (once a) := by
  unfold release
  cases there : h.get? a with
  | none =>
      refine ⟨rfl, ?_⟩
      intro b
      by_cases here : b = a
      · subst here
        rw [there, Option.bind_none]
      · rw [once_of_ne here, proper.lose_zero]
  | some o =>
      have somewhere := proper.ne_zero there
      have counted := proper.counted a o there
      by_cases last : o.references ≤ 1
      · simp only [last, if_true]
        refine ⟨rfl, ?_⟩
        intro b
        have erased := h.objects.get?_erase a b
        by_cases here : b = a
        · subst here
          rw [there, Option.bind_some, once_self somewhere, Object.lose, if_neg (by omega)]
          exact erased.trans (if_pos rfl)
        · rw [once_of_ne here, proper.lose_zero]
          exact erased.trans (if_neg here)
      · simp only [last, if_false]
        refine ⟨rfl, ?_⟩
        intro b
        have modified := h.objects.get?_modify a
          (fun o => { o with references := o.references - 1 }) b
        by_cases here : b = a
        · subst here
          rw [there, Option.bind_some, once_self somewhere, Object.lose, if_pos (by omega)]
          refine modified.trans ?_
          rw [if_pos rfl]
          exact congrArg (Option.map _) there
        · rw [once_of_ne here, proper.lose_zero]
          exact modified.trans (if_neg here)

/-! ## Arrays and their elements -/

/-- The number of words that refer to an address. -/
def slots (words : List Int64) (a : Address) : Nat :=
  words.countP fun w => w ≠ 0 ∧ addressOf w = a

theorem slots_pos {words : List Int64} {w : Int64} (inside : w ∈ words) (some_object : w ≠ 0) :
    0 < slots words (addressOf w) := by
  apply List.countP_pos_iff.mpr
  exact ⟨w, inside, by simp [some_object]⟩

/-- Each element loses a reference for each word that refers to it. -/
theorem loses_releaseElements (proper : h.Proper)
    {words : List Int64} (somewhere : ∀ w ∈ words, w ≠ 0 → addressOf w ≠ 0) :
    Loses h (h.releaseElements words) (slots words) := by
  induction words generalizing h with
  | nil => exact Loses.refl proper
  | cons w rest ih =>
      have behind : ∀ w ∈ rest, w ≠ 0 → addressOf w ≠ 0 := by
        intro v inside
        exact somewhere v (List.mem_cons_of_mem _ inside)
      by_cases null : w = 0
      · have skipped : slots (w :: rest) = slots rest := by
          funext a
          simp [slots, null]
        rw [skipped]
        simpa [releaseElements, null] using ih proper behind
      · have referred := somewhere w (by simp) null
        have one_more : slots (w :: rest) = once (addressOf w) + slots rest := by
          funext a
          by_cases here : a = addressOf w
          · subst here
            simp [slots, null, once_self referred, Nat.add_comm]
          · have other : addressOf w ≠ a := fun same => here same.symm
            simp [slots, other, once_of_ne here]
        have first := loses_release proper (addressOf w)
        rw [one_more]
        simpa [releaseElements, null] using first.trans (ih (first.proper proper) behind)

/-- What is lost when an array is given up: a reference to the array, and with the last one a
reference to each element. -/
def lostWith (h : Heap) (a : Address) : Address → Nat :=
  once a + if h.count a = 1 then slots ((h.wordsAt? a).getD []) else 0

section GivingUp

variable (proper : h.Proper)
  (somewhere : ∀ w ∈ (h.wordsAt? a).getD [], w ≠ 0 → addressOf w ≠ 0)

include proper somewhere

theorem loses_releaseStrings : Loses h (h.releaseStrings a) (h.lostWith a) := by
  have array := loses_release proper a
  have proper' := array.proper proper
  have left := array.count a
  unfold releaseStrings lostWith
  by_cases last : h.count a = 1
  · have there : a ≠ 0 := proper.ne_zero_of_count (by omega)
    have gone : (h.release a).get? a = none := by
      rw [proper'.gone_iff, left, last, once_self there]
    simp only [gone, last, if_true, Option.isNone_none]
    exact array.trans (loses_releaseElements proper' somewhere)
  · simp only [last, if_false, add_zero]
    split
    · next gone =>
      -- an array that is gone though this was not its last reference was never there
      rw [Option.isNone_iff_eq_none, proper'.gone_iff] at gone
      have none_before : h.count a = 0 := by
        have few : once a a ≤ 1 := by unfold once; split <;> omega
        omega
      rw [wordsAt_of_gone (proper.gone_iff.mpr none_before)]
      exact array
    · exact array

theorem loses_releaseValues : Loses h (h.releaseValues a) (h.lostWith a) := by
  have last_iff : h.references? a = some 1 ↔ h.count a = 1 := by
    unfold count
    cases h.references? a <;> simp
  unfold releaseValues lostWith
  by_cases last : h.count a = 1
  · simp only [last_iff, last, if_true]
    have elements := loses_releaseElements proper somewhere
    rw [add_comm]
    exact elements.trans (loses_release (elements.proper proper) a)
  · simp only [last_iff, last, if_false, add_zero]
    exact loses_release proper a

end GivingUp

end Heap

end SqlDriver
